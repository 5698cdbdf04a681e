import RichText.Proofs.Build.Failures
import RichText.Proofs.World.Continuing

/-!
One file for the writer, the engine and the caller. The output is written at a path from where the
work is done, the engine is called with a name in a directory of its own, and the path of the
document is made from that of the output; all three lead to the same place, or to the one beside it.
-/

set_option autoImplicit false
set_option relaxedAutoImplicit false

namespace RichText

/-- The path of what a text names below a path; a text from the root is a path of its own. -/
def Path.join (p : Path) (s : String) : Path :=
  match (ofString s).root with
  | .relative => { p with parts := p.parts ++ (ofString s).parts }
  | _ => ofString s

def World.absolutePath (here : Location) (p : Path) : Path where
  root := .absolute
  parts := absolute here p

/-- A call on an output. Its last argument is a name without directories, which in the directory of
the call is the output, and with the other suffix the document; that directory is given from the
root. -/
def Command.IsOn (c : Command) (here : Location) (out pdf : Path) : Prop :=
  ∃ stem : String, c.arguments.getLast? = some (stem ++ ".tex") ∧ '/' ∉ (stem ++ ".tex").toList ∧
    (Path.ofString c.directory).root = .absolute ∧
    (Path.ofString c.directory).join (stem ++ ".tex") = World.absolutePath here out ∧
    (Path.ofString c.directory).join (stem ++ ".pdf") = World.absolutePath here pdf

private theorem Location.join_ofString {l : Location} (hl : l.IsPlain) {name : List Char}
    (hpart : Path.isPart name = true) (hslash : '/' ∉ name) :
    (Path.ofString l.toString).join (String.ofList name) =
      { root := .absolute, parts := l ++ [name] } := by
  have hname : Path.ofString (String.ofList name) = { root := .relative, parts := [name] } := by
    have hread : Path.IsReadable { root := .relative, parts := [name] } := by
      intro n hn
      rw [List.mem_singleton.mp hn]
      exact ⟨hpart, hslash⟩
    rw [Path.ofString, String.toList_ofList]
    exact Path.ofChars_spelling hread
  rw [Location.ofString_toString hl, Path.join, hname]

private theorem World.isPlain_absolute {here : Location} (hhere : here.IsPlain) {p : Path}
    (hp : p.IsReadable) : (absolute here p).IsPlain := by
  refine Files.isPlain_lexical ?_ fun n hn => (hp n hn).2
  cases p.root with
  | relative => exact hhere
  | absolute | doubled => exact fun n hn => absurd hn List.not_mem_nil

namespace Build

variable {w v : World} {source : String} {format : TextFormat} {directory : Option String}

theorem slash_not_mem_stem (source : String) : '/' ∉ (Path.ofString source).stem := by
  have hname : '/' ∉ (Path.ofString source).name := by
    rw [Path.name]
    cases hlast : (Path.ofString source).parts.getLast? with
    | none => exact List.not_mem_nil
    | some n => exact (Path.isReadable_ofString source n (List.mem_of_getLast? hlast)).2
  rw [← Path.stem_append_suffix, List.mem_append, not_or] at hname
  exact hname.1

theorem isReadable_outputParent (source : String) (directory : Option String) :
    (outputParent (directory? directory) (Path.ofString source)).IsReadable := by
  have hparent : (Path.ofString source).parent.IsReadable := fun n hn =>
    Path.isReadable_ofString source n (List.dropLast_subset _ hn)
  unfold directory?
  split
  · exact hparent
  · exact hparent
  · exact Path.isReadable_ofString _

/-- The directory of a call is that of the output, however it is found. -/
theorem outputPlace_eq (here : Location) (directory : Option Path) (source : Path) :
    outputPlace here directory (outputPath .latex directory source) =
      if World.holdsNul (directory.getD (outputPath .latex directory source)).toString
      then .error (.fault .nulInPath)
      else .ok (World.absolute here (outputParent directory source)) := by
  cases directory with
  | some d => rfl
  | none =>
    have hplace := absolute_outputPath .latex none source here
    simp only [outputPlace, World.resolve, Option.getD_none]
    split
    · rfl
    · rw [Except.map, hplace, List.dropLast_concat]

private theorem join_eq_absolutePath {here : Location} {d : Path}
    (hd : (World.absolute here d).IsPlain)
    {stem : List Char} (hstem : '/' ∉ stem) (ext : String) {c : Char}
    (hlast : ext.toList.getLast? = some c) (hc : c ≠ '.') (hext : '/' ∉ ext.toList) :
    (Path.ofString (World.absolute here d).toString).join (String.ofList stem ++ ext) =
      World.absolutePath here (d.child (stem ++ ext.toList)) := by
  have hname : (stem ++ ext.toList).getLast? = some c := by
    rw [List.getLast?_append, hlast]
    rfl
  have hslash : '/' ∉ stem ++ ext.toList := fun h => (List.mem_append.mp h).elim hstem hext
  have htext : String.ofList stem ++ ext = String.ofList (stem ++ ext.toList) := by
    rw [String.ofList_append, String.ofList_toList]
  rw [htext, Location.join_ofString hd (Path.isPart_of_getLast? hname hc) hslash,
    World.absolutePath, absolute_child hlast hc]

private theorem call_isOn {here : Location} {source : Path} {directory : Option Path}
    (hstem : '/' ∉ source.stem)
    (hplain : (World.absolute here (outputParent directory source)).IsPlain) (e : EngineName) :
    (e.call (outputPath .latex directory source)
      (World.absolute here (outputParent directory source))).IsOn here
      (outputPath .latex directory source)
      ((outputParent directory source).child (source.stem ++ ".pdf".toList)) := by
  have hname : (outputPath .latex directory source).name = source.stem ++ ".tex".toList := by
    rw [outputPath_eq_child, Path.name_child]
    rfl
  have htext : String.ofList source.stem ++ ".tex" =
      String.ofList (outputPath .latex directory source).name := by
    rw [hname, String.ofList_append, String.ofList_toList]
  refine ⟨String.ofList source.stem, ?_, ?_, ?_, ?_, ?_⟩
  · rw [htext]
    cases e <;> rfl
  · rw [htext, String.toList_ofList, hname]
    exact fun h => (List.mem_append.mp h).elim hstem (by decide)
  · exact congrArg Path.root (Location.ofString_toString hplain)
  · rw [outputPath_eq_child]
    exact join_eq_absolutePath hplain hstem ".tex" (c := 'x') rfl (by decide) (by decide)
  · exact join_eq_absolutePath hplain hstem ".pdf" (c := 'f') rfl (by decide) (by decide)

private theorem run_engine {e : EngineName} (he : EngineName.found? w.engines = some e) :
    ∃ v, engine.run.run w = (.ok e, v) ∧ w.Continue v := by
  obtain ⟨v, hv, hwv⟩ := Work.run_log .build Level.debug s!"Using LaTeX engine: {e.program}" w
  refine ⟨v, ?_, hwv⟩
  rw [engine, Work.run_bind_ok (Work.run_get w), he, Work.run_bind_ok hv]
  rfl

private theorem run_latexCommand {e : EngineName} (he : EngineName.found? w.engines = some e)
    (hsource : sourceFormat (Path.ofString source) = .ok format) (directory : Option String) :
    ∃ v, (latexCommand source directory).run.run w =
      (if World.holdsNul ((directory? directory).getD (outputOf source .latex directory)).toString
        then .error (.fault .nulInPath)
        else .ok (e.call (outputOf source .latex directory) (World.absolute w.here
          (outputParent (directory? directory) (Path.ofString source)))), v) := by
  obtain ⟨v, hv, hwv⟩ := run_engine he
  have hplace := outputPlace_eq w.here (directory? directory) (Path.ofString source)
  refine ⟨v, ?_⟩
  rw [latexCommand, Work.run_bind_ok hv, output_eq_ok hsource .latex directory,
    Work.run_bind_ok (Work.run_ofFailure_ok _ v), Work.run_bind_ok (Work.run_get v), hwv.here,
    outputOf, hplace]
  split
  · exact Work.run_bind_error (Work.run_ofExcept _ v)
  · exact Work.run_bind_ok (Work.run_ofExcept _ v)

theorem run_generate_eq_ok {t : Target} {n : Node} {p : Path}
    (hsource : sourceFormat (Path.ofString source) = .ok format)
    (h : (generate source n t.name directory).run.run w = (.ok p, v)) :
    p = outputOf source t directory ∧ ∃ more,
      v.files.entry? (World.absolute w.here p) = some (.file ((textOf t n).toUTF8 ++ more)) := by
  have hrender : t.render none n = .ok (t.dialect.render n) := rfl
  rw [generate, output_eq_ok hsource t directory, Target.ofName_name,
    Work.run_bind_ok (Work.run_ofFailure_ok _ w), Work.run_bind_ok (Work.run_ofFailure_ok _ w),
    hrender, Work.run_bind_ok (Work.run_ofFailure_ok _ w)] at h
  obtain ⟨u, hu, hwu⟩ := Work.run_forM_log .markup Level.debug skippedMessage
    (t.dialect.render n).skipped w
  rw [Work.run_bind_ok hu] at h
  obtain ⟨_, x, hx, h⟩ := Work.run_bind_eq_ok h
  obtain ⟨y, hy, hxy⟩ := Work.run_log .build Level.info
    s!"Wrote {(outputOf source t directory).toString}" x
  rw [Work.run_bind_ok hy] at h
  obtain ⟨hp, rfl⟩ := Prod.mk.inj h
  obtain rfl := Except.ok.inj hp
  refine ⟨rfl, ?_⟩
  -- writing is the one step that does not depend on the log
  obtain ⟨hresult, hleft⟩ := writeOutput_ends u (directory? directory) (outputOf source t directory)
    (textOf t n)
  rw [textOf, hx] at hresult hleft
  have hplaced : placed u (directory? directory) (outputOf source t directory) (textOf t n) =
      (.ok (), x.files) := Prod.ext hresult.symm hleft.files.symm
  obtain ⟨made, hmade⟩ := exists_placement (liesIn_outputPath t _ _) hplaced
  rw [← hwu.here]
  exact hxy.files _ _ hmade.fileAt.2

private theorem run_compileOutput_eq_ok {out p : Path}
    (h : (compileOutput source directory out).run.run w = (.ok p, v)) :
    p = (pdfPath? out).getD out := by
  obtain ⟨c, v₁, -, h⟩ := Work.run_bind_eq_ok h
  obtain ⟨-, v₂, -, h⟩ := Work.run_bind_eq_ok h
  obtain ⟨-, v₃, -, h⟩ := Work.run_bind_eq_ok h
  obtain ⟨-, v₄, -, h⟩ := Work.run_bind_eq_ok h
  exact (Except.ok.inj (Prod.mk.inj h).1).symm

theorem run_build_eq_ok {p : Path}
    (hsource : sourceFormat (Path.ofString source) = .ok format)
    (h : (build source Target.latex.name true directory).run.run w = (.ok p, v)) :
    p = (pdfPath? (outputOf source .latex directory)).getD (outputOf source .latex directory) := by
  rw [build, Target.ofName_name, Work.run_bind_ok (Work.run_ofFailure_ok _ w)] at h
  obtain ⟨_, _, -, h⟩ := Work.run_bind_eq_ok h
  obtain ⟨n, _, -, h⟩ := Work.run_bind_eq_ok h
  obtain ⟨-, _, -, h⟩ := Work.run_bind_eq_ok h
  obtain ⟨out, _, hout, h⟩ := Work.run_bind_eq_ok h
  obtain ⟨rfl, -⟩ := run_generate_eq_ok hsource hout
  exact run_compileOutput_eq_ok h

/-- The writer, the engine and the caller speak of the same file, whatever the log is: a call is
made unless its directory cannot be named, it is a call on the output, a tree is written at the
output, and a build that compiles returns the document of that output. -/
theorem places_alike {e : EngineName} (hhere : w.here.IsPlain)
    (hsource : sourceFormat (Path.ofString source) = .ok format)
    (he : EngineName.found? w.engines = some e) (directory : Option String) :
    ∃ out pdf, output source Target.latex.name directory = .ok out ∧ pdfPath? out = some pdf ∧
      ((∃ c v, (latexCommand source directory).run.run w = (.ok c, v)) ↔
        World.holdsNul ((directory? directory).getD out).toString = false) ∧
      (∀ c v, (latexCommand source directory).run.run w = (.ok c, v) →
        c.program = e.program ∧ c.IsOn w.here out pdf) ∧
      (∀ n p v, (generate source n Target.latex.name directory).run.run w = (.ok p, v) →
        p = out ∧ ∃ more, v.files.entry? (World.absolute w.here out) =
          some (.file ((textOf .latex n).toUTF8 ++ more))) ∧
      ∀ p v, (build source Target.latex.name true directory).run.run w = (.ok p, v) → p = pdf := by
  have hpdf := pdfPath?_outputPath (suffix_mem_of_sourceFormat hsource) .latex
    (directory? directory)
  have hplain := World.isPlain_absolute hhere (isReadable_outputParent source directory)
  obtain ⟨u, hcommand⟩ := run_latexCommand he hsource directory
  refine ⟨_, _, output_eq_ok hsource .latex directory, hpdf, ?_, ?_, ?_, ?_⟩
  · rw [hcommand]
    split
    · next hnul =>
      constructor
      · rintro ⟨c, v, h⟩
        cases (Prod.mk.inj h).1
      · intro h
        rw [hnul] at h
        cases h
    · next hnul => exact ⟨fun _ => by simpa using hnul, fun _ => ⟨_, _, rfl⟩⟩
  · intro c v h
    rw [hcommand] at h
    split at h
    · cases h
    · obtain rfl := Except.ok.inj (Prod.mk.inj h).1
      exact ⟨rfl, call_isOn (slash_not_mem_stem source) hplain e⟩
  · intro n p v h
    obtain ⟨rfl, hfile⟩ := run_generate_eq_ok hsource h
    exact ⟨rfl, hfile⟩
  · intro p v h
    have hp := run_build_eq_ok hsource h
    rw [outputOf, hpdf] at hp
    exact hp

theorem places_alike_above :
    ∃ c v, (latexCommand "./cv.json" (some "../out/.")).run.run
        { wiping with here := ["home".toList] } = (.ok c, v) ∧
      c.IsOn ["home".toList] (Path.ofString "../out/cv.tex") (Path.ofString "../out/cv.pdf") := by
  have hhere : Location.IsPlain ["home".toList] := by
    intro n hn
    rw [List.mem_singleton.mp hn]
    decide
  have hsource : sourceFormat (Path.ofString "./cv.json") = .ok .json := by rfl
  have he : EngineName.found? wiping.engines = some .xelatex := by rfl
  obtain ⟨out, pdf, hout, hpdf, hmade, hcall, -⟩ :=
    places_alike (w := { wiping with here := ["home".toList] }) hhere hsource he (some "../out/.")
  obtain rfl : Path.ofString "../out/cv.tex" = out := Except.ok.inj hout
  obtain rfl : Path.ofString "../out/cv.pdf" = pdf := Option.some.inj hpdf
  obtain ⟨c, v, hrun⟩ := hmade.mpr (by decide)
  exact ⟨c, v, hrun, (hcall c v hrun).2⟩

end Build

end RichText
