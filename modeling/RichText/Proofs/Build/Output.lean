import RichText.Build.Output
import RichText.Proofs.Files.Walk
import RichText.World

/-!
Where the output of a source lies. A name is its stem and its suffix; the output has the stem of the
source and a suffix that no source has, so that it never lies where the source does.
-/

set_option autoImplicit false
set_option relaxedAutoImplicit false

namespace RichText

namespace Path

private theorem cutSuffix_append (name : List Char) :
    (cutSuffix name).1 ++ (cutSuffix name).2 = name := by
  have hcut := List.takeWhile_append_dropWhile (p := (· ≠ '.')) (l := name.reverse)
  have hdot := List.head?_dropWhile_not (· ≠ '.') name.reverse
  rw [cutSuffix]
  generalize name.reverse.takeWhile (· ≠ '.') = tail at *
  generalize name.reverse.dropWhile (· ≠ '.') = front at *
  split
  · next t ts c d cs =>
    have hc : c = '.' := by simpa using hdot
    have hname : name = (t :: ts ++ '.' :: d :: cs).reverse := by
      rw [← hc, hcut, List.reverse_reverse]
    rw [hname]
    simp
  · simp

theorem stem_append_suffix (p : Path) : p.stem ++ p.suffix = p.name := cutSuffix_append p.name

private theorem child_parent {p : Path} (h : p.name ≠ []) : p.parent.child p.name = p := by
  have hparts : p.parts ≠ [] := by
    intro he
    exact h (by simp [name, he])
  have hname : p.name = p.parts.getLast hparts := by
    rw [name, List.getLast?_eq_some_getLast hparts]
    rfl
  simp only [child, parent, hname, List.dropLast_append_getLast]

theorem cutSuffix_append_dot {stem : List Char} (hstem : stem ≠ []) (ext : List Char)
    (hext : ext ≠ []) (hdot : '.' ∉ ext) : cutSuffix (stem ++ '.' :: ext) = (stem, '.' :: ext) := by
  have hplain : ∀ c ∈ ext.reverse, decide (c ≠ '.') = true := by
    intro c hc
    refine decide_eq_true fun he => hdot ?_
    rwa [← he, ← List.mem_reverse]
  have hreverse : (stem ++ '.' :: ext).reverse = ext.reverse ++ '.' :: stem.reverse := by simp
  rw [cutSuffix, hreverse, List.takeWhile_append_of_pos hplain, List.dropWhile_append_of_pos hplain,
    List.takeWhile_cons_of_neg (by simp), List.dropWhile_cons_of_neg (by simp), List.append_nil]
  obtain ⟨c, cs, hc⟩ := List.exists_cons_of_ne_nil (List.reverse_ne_nil_iff.mpr hext)
  obtain ⟨d, ds, hd⟩ := List.exists_cons_of_ne_nil (List.reverse_ne_nil_iff.mpr hstem)
  rw [hc, hd]
  simp only [List.tail_cons, ← hc, ← hd, List.reverse_reverse]

theorem stem_ne_nil {p : Path} (h : p.suffix ≠ []) : p.stem ≠ [] := by
  rw [suffix, cutSuffix] at h
  rw [stem, cutSuffix]
  split at h
  · next he hf =>
    rw [hf]
    simp
  · exact absurd rfl h

theorem name_child (p : Path) (n : List Char) : (p.child n).name = n := by
  simp [name, child]

theorem parent_child (p : Path) (n : List Char) : (p.child n).parent = p := by
  simp [parent, child]

end Path

namespace Target

theorem ofName_name (t : Target) : ofName t.name = .ok t := by
  cases t <;> rfl

theorem eq_of_ofName_name {t u : Target} (h : ofName t.name = .ok u) : t = u := by
  rw [ofName_name] at h
  exact Except.ok.inj h

theorem eq_name_of_ofName {t : Target} {s : String} (h : ofName s = .ok t) : s = t.name := by
  simp only [ofName, ofName?] at h
  split at h
  · next u hu =>
    have hname := List.find?_some hu
    rw [← Except.ok.inj h]
    exact (of_decide_eq_true hname).symm
  · cases h

end Target

namespace Build

def sourceSuffixes : List (List Char) := TextFormat.suffixes.map (·.1.toList)

theorem ofSuffix?_eq_none_iff (s : List Char) :
    TextFormat.ofSuffix? s = none ↔ s ∉ sourceSuffixes := by
  simp only [TextFormat.ofSuffix?, sourceSuffixes, Option.map_eq_none_iff, List.find?_eq_none,
    List.mem_map, not_exists, not_and, decide_eq_true_eq]

theorem sourceFormat_eq_ok {p : Path} {f : TextFormat} (h : sourceFormat p = .ok f) :
    TextFormat.ofSuffix? p.suffix = some f := by
  rw [sourceFormat] at h
  split at h
  · next hf => rw [hf, Except.ok.inj h]
  · cases h

theorem suffix_mem_of_sourceFormat {p : Path} {f : TextFormat} (h : sourceFormat p = .ok f) :
    p.suffix ∈ sourceSuffixes := by
  have hs := sourceFormat_eq_ok h
  by_contra hn
  rw [(ofSuffix?_eq_none_iff _).mpr hn] at hs
  cases hs

theorem absolute_child {ext : List Char} {c : Char} (hlast : ext.getLast? = some c) (hc : c ≠ '.')
    (here : Location) (d : Path) (stem : List Char) :
    World.absolute here (d.child (stem ++ ext)) = World.absolute here d ++ [stem ++ ext] := by
  have hname : (stem ++ ext).getLast? = some c := by
    rw [List.getLast?_append, hlast]
    rfl
  exact Files.lexical_snoc hname hc _ _

private theorem absolute_source {p : Path} (h : p.suffix ∈ sourceSuffixes) (here : Location) :
    World.absolute here p = World.absolute here p.parent ++ [p.name] := by
  have hlast : ∃ c, p.suffix.getLast? = some c ∧ c ≠ '.' := by
    simp only [sourceSuffixes, TextFormat.suffixes, List.map_cons, List.map_nil, List.mem_cons,
      List.not_mem_nil, or_false] at h
    rcases h with h | h | h <;> rw [h]
    · exact ⟨'l', rfl, by decide⟩
    · exact ⟨'l', rfl, by decide⟩
    · exact ⟨'n', rfl, by decide⟩
  obtain ⟨c, hsuffix, hc⟩ := hlast
  have hname : p.name ≠ [] := by
    intro he
    have happend := p.stem_append_suffix
    rw [he] at happend
    rw [(List.append_eq_nil_iff.mp happend).2] at hsuffix
    cases hsuffix
  have hchild := absolute_child hsuffix hc here p.parent p.stem
  rwa [p.stem_append_suffix, Path.child_parent hname] at hchild

def outputParent (directory : Option Path) (source : Path) : Path := directory.getD source.parent

theorem outputPath_eq_child (t : Target) (directory : Option Path) (source : Path) :
    outputPath t directory source =
      (outputParent directory source).child (source.stem ++ t.suffix.toList) := by
  cases directory <;> rfl

theorem absolute_outputPath (t : Target) (directory : Option Path) (source : Path)
    (here : Location) :
    World.absolute here (outputPath t directory source) =
      World.absolute here (outputParent directory source) ++ [source.stem ++ t.suffix.toList] := by
  rw [outputPath_eq_child]
  cases t with
  | markdown => exact absolute_child (c := 'd') rfl (by decide) here _ _
  | latex => exact absolute_child (c := 'x') rfl (by decide) here _ _

private theorem stem_outputPath {source : Path} (h : source.suffix ∈ sourceSuffixes) (t : Target)
    (directory : Option Path) : (outputPath t directory source).stem = source.stem := by
  have hstem : source.stem ≠ [] := by
    refine Path.stem_ne_nil fun he => ?_
    rw [he] at h
    exact absurd h (by decide)
  have hcut : Path.cutSuffix (source.stem ++ t.suffix.toList) = (source.stem, t.suffix.toList) := by
    cases t with
    | markdown => exact Path.cutSuffix_append_dot hstem "md".toList (by decide) (by decide)
    | latex => exact Path.cutSuffix_append_dot hstem "tex".toList (by decide) (by decide)
  rw [outputPath_eq_child, Path.stem, Path.name_child, hcut]

theorem pdfPath?_outputPath {source : Path} (h : source.suffix ∈ sourceSuffixes) (t : Target)
    (directory : Option Path) :
    pdfPath? (outputPath t directory source) =
      some ((outputParent directory source).child (source.stem ++ ".pdf".toList)) := by
  have hname : (outputPath t directory source).name ≠ [] := by
    rw [outputPath_eq_child, Path.name_child]
    cases t <;> exact List.append_ne_nil_of_right_ne_nil _ (by decide)
  rw [pdfPath?, Path.withSuffix?, if_neg hname, stem_outputPath h, outputPath_eq_child,
    Path.parent_child]

theorem absolute_outputPath_ne {source : Path} (h : source.suffix ∈ sourceSuffixes) (t : Target)
    (directory : Option Path) (here : Location) :
    World.absolute here (outputPath t directory source) ≠ World.absolute here source := by
  rw [absolute_outputPath, absolute_source h]
  intro he
  have hname := (List.append_inj' he rfl).2
  rw [← source.stem_append_suffix, List.singleton_inj, List.append_cancel_left_eq] at hname
  rw [← hname] at h
  cases t with
  | markdown => exact absurd h (by decide)
  | latex => exact absurd h (by decide)

def outputOf (source : String) (t : Target) (directory : Option String) : Path :=
  outputPath t (directory? directory) (Path.ofString source)

theorem output_eq_ok {source : String} {format : TextFormat}
    (h : sourceFormat (Path.ofString source) = .ok format) (t : Target)
    (directory : Option String) :
    output source t.name directory = .ok (outputOf source t directory) := by
  cases t <;> simp only [output, h] <;> rfl

end Build

end RichText
