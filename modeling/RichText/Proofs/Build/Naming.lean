import RichText.Proofs.Build.Places

/-!
How an output is named. The suffix of the source is looked at first and then the name of the target;
once both are known nothing else can be refused, since a name with a suffix has a stem, and a stem
with another suffix is a name again.
-/

set_option autoImplicit false
set_option relaxedAutoImplicit false

namespace RichText.Build

/-- A path that can be read, whose name is a stem and a suffix, in a directory. -/
structure Named (parent : Path) (stem suffix : List Char) (p : Path) : Prop where
  parent_eq : p.parent = parent
  name_eq : p.name = stem ++ suffix
  stem_eq : p.stem = stem
  suffix_eq : p.suffix = suffix
  reread : Path.ofString p.toString = p

def parentOf (source : String) : Option String → Path
  | none => (Path.ofString source).parent
  | some s => if s = "" then (Path.ofString source).parent else Path.ofString s

private theorem parentOf_eq (source : String) (directory : Option String) :
    parentOf source directory = outputParent (directory? directory) (Path.ofString source) := by
  unfold directory?
  split
  · rfl
  · rfl
  · next s hs =>
    have hne : s ≠ "" := fun he => hs he
    exact if_neg hne

private theorem named_child {parent : Path} {stem : List Char} {c : Char} (ext : List Char)
    (hparent : parent.IsReadable) (hstem : stem ≠ []) (hslash : '/' ∉ stem) (hext : '/' ∉ ext)
    (hdot : '.' ∉ ext) (hlast : ext.getLast? = some c) :
    Named parent stem ('.' :: ext) (parent.child (stem ++ '.' :: ext)) := by
  have hne : ext ≠ [] := by
    rintro rfl
    cases hlast
  have hname := Path.name_child parent (stem ++ '.' :: ext)
  have hcut := Path.cutSuffix_append_dot hstem ext hne hdot
  have hend : (stem ++ '.' :: ext).getLast? = some c := by
    rw [List.getLast?_append, List.getLast?_cons, hlast]
    rfl
  have hc : c ≠ '.' := by
    rintro rfl
    exact hdot (List.mem_of_getLast? hlast)
  refine ⟨Path.parent_child _ _, hname, ?_, ?_, Path.ofString_toString ?_⟩
  · rw [Path.stem, hname, hcut]
  · rw [Path.suffix, hname, hcut]
  · intro n hn
    rcases List.mem_append.mp hn with hn | hn
    · exact hparent n hn
    · rw [List.mem_singleton.mp hn]
      refine ⟨Path.isPart_of_getLast? hend hc, fun h => ?_⟩
      rcases List.mem_append.mp h with h | h
      · exact hslash h
      · rcases List.mem_cons.mp h with h | h
        · exact absurd h (by decide)
        · exact hext h

variable {source target : String}

private theorem stem_ne_nil_of_mem {p : Path} (h : p.suffix ∈ sourceSuffixes) : p.stem ≠ [] := by
  refine Path.stem_ne_nil fun he => ?_
  rw [he] at h
  exact absurd h (by decide)

private theorem withSuffix?_of_mem {p : Path} (h : p.suffix ∈ sourceSuffixes) (ext : List Char) :
    p.withSuffix? ext = some (p.parent.child (p.stem ++ ext)) := by
  have hname : p.name ≠ [] := by
    rw [← p.stem_append_suffix]
    exact List.append_ne_nil_of_left_ne_nil (stem_ne_nil_of_mem h) _
  rw [Path.withSuffix?, if_neg hname]

def HasFormat (source : String) : Prop :=
  (Path.ofString source).suffix ∈ [".json", ".yaml", ".yml"].map String.toList

private theorem hasFormat_iff (source : String) :
    HasFormat source ↔ (Path.ofString source).suffix ∈ sourceSuffixes := by
  simp only [HasFormat, sourceSuffixes, TextFormat.suffixes, List.map_cons, List.map_nil,
    List.mem_cons, List.not_mem_nil, or_false]
  tauto

private theorem sourceFormat_of_mem {p : Path} (h : p.suffix ∈ sourceSuffixes) :
    ∃ format, sourceFormat p = .ok format := by
  cases hf : TextFormat.ofSuffix? p.suffix with
  | none => exact absurd h ((ofSuffix?_eq_none_iff _).mp hf)
  | some format => exact ⟨format, by rw [sourceFormat, hf]⟩

private theorem output_of_not_mem
    (h : (Path.ofString source).suffix ∉ sourceSuffixes) (target : String)
    (directory : Option String) : output source target directory =
      .error (unsupportedSource (String.ofList (Path.ofString source).suffix)) := by
  rw [output, sourceFormat, (ofSuffix?_eq_none_iff _).mpr h]
  rfl

private theorem output_of_ofName_error
    (h : (Path.ofString source).suffix ∈ sourceSuffixes) {f : Failure}
    (hf : Target.ofName target = .error f) (directory : Option String) :
    output source target directory = .error f := by
  obtain ⟨format, hformat⟩ := sourceFormat_of_mem h
  rw [output, hformat, hf]
  rfl

private theorem ofName_of_not_mem (h : target ∉ ["markdown", "latex"]) :
    Target.ofName target = .error (Target.unsupported target) := by
  cases ht : Target.ofName target with
  | ok t =>
    rw [Target.eq_name_of_ofName ht] at h
    cases t <;> exact absurd h (by decide)
  | error f =>
    unfold Target.ofName at ht
    split at ht
    · cases ht
    · exact ht.symm

private theorem named_outputOf (h : (Path.ofString source).suffix ∈ sourceSuffixes) (t : Target)
    (directory : Option String) :
    Named (parentOf source directory) (Path.ofString source).stem t.suffix.toList
        (outputOf source t directory) ∧
      ∃ pdf, pdfPath? (outputOf source t directory) = some pdf ∧
        Named (parentOf source directory) (Path.ofString source).stem ".pdf".toList pdf := by
  have hparent := isReadable_outputParent source directory
  have hslash := slash_not_mem_stem source
  have hstem := stem_ne_nil_of_mem h
  rw [parentOf_eq]
  refine ⟨?_, _, pdfPath?_outputPath h t _, ?_⟩
  · rw [outputOf, outputPath_eq_child]
    cases t with
    | markdown =>
      exact named_child "md".toList hparent hstem hslash (by decide) (by decide) rfl
    | latex =>
      exact named_child "tex".toList hparent hstem hslash (by decide) (by decide) rfl
  · exact named_child "pdf".toList hparent hstem hslash (by decide) (by decide) rfl

private theorem exists_target_of_mem (h : target ∈ ["markdown", "latex"]) :
    ∃ t : Target, target = t.name := by
  rcases List.mem_pair.mp h with rfl | rfl
  · exact ⟨.markdown, rfl⟩
  · exact ⟨.latex, rfl⟩

private theorem output_eq_error_iff (source target : String) (directory : Option String)
    (f : Failure) : output source target directory = .error f ↔
      ¬ HasFormat source ∧
        f = unsupportedSource (String.ofList (Path.ofString source).suffix) ∨
      HasFormat source ∧ target ∉ ["markdown", "latex"] ∧ f = Target.unsupported target := by
  by_cases hk : HasFormat source
  · have hsuffix := (hasFormat_iff source).mp hk
    by_cases ht : target ∈ ["markdown", "latex"]
    · obtain ⟨t, rfl⟩ := exists_target_of_mem ht
      obtain ⟨format, hformat⟩ := sourceFormat_of_mem hsuffix
      rw [output_eq_ok hformat t directory]
      simp [hk, ht]
    · rw [output_of_ofName_error hsuffix (ofName_of_not_mem ht) directory]
      simp [hk, ht, eq_comm]
  · rw [output_of_not_mem (mt (hasFormat_iff source).mpr hk) target directory]
    simp [hk, eq_comm]

private theorem outputOf_ne (h : (Path.ofString source).suffix ∈ sourceSuffixes) (t : Target)
    (directory : Option String) : outputOf source t directory ≠ Path.ofString source := by
  intro he
  have hsuffix := (named_outputOf h t directory).1.suffix_eq
  rw [he] at hsuffix
  rw [hsuffix] at h
  cases t <;> exact absurd h (by decide)

/-- An output is refused for a suffix of its source that stands for no format, else for a target
that there is none of, and for nothing more. Otherwise it has the name of its source with the suffix
of its target and the directory that was asked for, it is not the source, it is read back from its
spelling, and its document differs from it in the suffix alone. -/
theorem output_named (source target : String) (directory : Option String) :
    (∀ f, output source target directory = .error f ↔
      ¬ HasFormat source ∧
        f = unsupportedSource (String.ofList (Path.ofString source).suffix) ∨
      HasFormat source ∧ target ∉ ["markdown", "latex"] ∧ f = Target.unsupported target) ∧
    (∀ f, output source target directory = .error f → f.reason.kind = .format) ∧
    ∀ ext, HasFormat source → (target, ext) ∈ [("markdown", ".md"), ("latex", ".tex")] →
      ∃ r pdf, output source target directory = .ok r ∧
        (Path.ofString source).name =
          (Path.ofString source).stem ++ (Path.ofString source).suffix ∧
        (Path.ofString source).withSuffix? ext.toList =
          some ((Path.ofString source).parent.child r.name) ∧
        Named (parentOf source directory) (Path.ofString source).stem ext.toList r ∧
        r ≠ Path.ofString source ∧ pdfPath? r = some pdf ∧
        Named r.parent r.stem ".pdf".toList pdf := by
  refine ⟨output_eq_error_iff source target directory, fun f hf => ?_, fun ext hk ht => ?_⟩
  · rcases (output_eq_error_iff source target directory f).mp hf with ⟨-, rfl⟩ | ⟨-, -, rfl⟩
    · rfl
    · rfl
  · obtain ⟨t, rfl, rfl⟩ : ∃ t : Target, target = t.name ∧ ext = t.suffix := by
      rcases List.mem_pair.mp ht with he | he
      · exact ⟨.markdown, (Prod.mk.inj he).1, (Prod.mk.inj he).2⟩
      · exact ⟨.latex, (Prod.mk.inj he).1, (Prod.mk.inj he).2⟩
    have hsuffix := (hasFormat_iff source).mp hk
    obtain ⟨format, hformat⟩ := sourceFormat_of_mem hsuffix
    obtain ⟨hout, pdf, hpdf, hnamed⟩ := named_outputOf hsuffix t directory
    refine ⟨_, pdf, output_eq_ok hformat t directory, (Path.stem_append_suffix _).symm, ?_, hout,
      outputOf_ne hsuffix t directory, hpdf, ?_⟩
    · rw [hout.name_eq]
      exact withSuffix?_of_mem hsuffix _
    · rw [hout.parent_eq, hout.stem_eq]
      exact hnamed

theorem output_named_dotted :
    ∃ r, output "cv/./a..json" "latex" (some "//out/") = .ok r ∧ r.toString = "//out/a..tex" ∧
      Named (Path.ofString "//out") "a.".toList ".tex".toList r := by
  have hknown : HasFormat "cv/./a..json" := by
    rw [HasFormat]
    decide
  obtain ⟨r, -, hout, -, -, hnamed, -⟩ :=
    (output_named "cv/./a..json" "latex" (some "//out/")).2.2 ".tex" hknown (by decide)
  obtain rfl : Path.ofString "//out/a..tex" = r := Except.ok.inj hout
  exact ⟨_, hout, rfl, hnamed⟩

end RichText.Build
