import RichText.Proofs.CommandLine.ExitCode
import RichText.Proofs.Tree.Endless
import RichText.Proofs.Yaml.Constructing

/-!
Which sources are answered for. Reading a source ends with its tree or with a failure that a run
reports, but for three kinds of sources: those whose path the system refuses to walk, YAML texts
with a scalar that makes its reader stumble, and YAML texts with content that contains itself. There
the reading ends with a fault, and so does the run, without a message of its own.
-/

set_option autoImplicit false
set_option relaxedAutoImplicit false

namespace RichText

namespace Build

/-- The source is answered for: there is a tree, or a failure of one of the kinds that reading is
known for. -/
def Answers (r : Except Problem Node) : Prop :=
  (∃ n, r = .ok n) ∨ ∃ f, r = .error (.failure f) ∧ f.reason.kind ∈ readingKinds

/-- The path of a source is too long for the system, or a name on it is. -/
def Refused (w : World) (source : String) : Prop :=
  (Path.ofString source).suffix ∈ sourceSuffixes ∧
    World.holdsNul (Path.ofString source).toString = false ∧
    w.files.walkPath (World.start w.here (Path.ofString source).root) (Path.ofString source) =
      .error .nameTooLong

/-- A YAML source holds a scalar that its reader stumbles over: neither does the scalar have a value
nor is it said not to fit. -/
def Stumbles (w : World) (source : String) : Prop :=
  ∃ l bytes text f, TextFormat.ofSuffix? (Path.ofString source).suffix = some .yaml ∧
    FileAt w.files w.here (Path.ofString source) l bytes ∧ Text.ofBytes? bytes = some text ∧
    Yaml.parse text = .error (.value f) ∧ f.family ≠ .unfit

/-- A YAML source holds content that contains itself where the loader goes, which then goes round
for ever. Content that is only nested deeply is not meant: how deep calls may go is a limit of the
machine, and set aside here. -/
def Circles (w : World) (source : String) : Prop :=
  ∃ l bytes text v, TextFormat.ofSuffix? (Path.ofString source).suffix = some .yaml ∧
    FileAt w.files w.here (Path.ofString source) l bytes ∧ Text.ofBytes? bytes = some text ∧
    Yaml.parse text = .ok v ∧ Node.Endless v

/-- A text with something to stumble over: an escape for a code far beyond all characters, default
keys that lead round, or a node whose text is not of the kind that its tag states, where that is not
what the kind says. -/
def HasPitfall (text : String) : Prop :=
  (Yaml.Tokens.ofText text).fault = some (.value .hugeCodePoint) ∨
    ∃ d f, Yaml.Document.ofTokens (Yaml.Tokens.ofText text) = .ok (some d) ∧
      d.graph.Misfits f ∧ f.family ≠ .unfit

variable {w : World} {source : String}

private theorem find?_eq_error_iff {files : Files} {here : Location} {p : Path} :
    (∃ q, find? files here p = .error q) ↔
      World.holdsNul p.toString = false ∧
        files.walkPath (World.start here p.root) p = .error .nameTooLong := by
  rw [find?]
  cases hnul : World.holdsNul p.toString with
  | true => simp
  | false =>
    rw [if_neg (by simp)]
    cases hwalk : files.walkPath (World.start here p.root) p with
    | ok l => simp
    | error e =>
      rcases Files.walkPath_eq_error hwalk with rfl | rfl | rfl
      · simp
      · simp
      · simp

private theorem readProblem_eq_fault_iff {p : Path} {e : ReadError} :
    (∃ x, readProblem p e = .fault x) ↔ ∃ f, e = .yaml (.value f) ∧ f.family ≠ .unfit := by
  cases e with
  | json fault text => simp [readProblem]
  | load e => simp [readProblem]
  | yaml fault =>
    cases fault with
    | malformed => simp [readProblem]
    | value f => cases hf : f.family <;> simp [readProblem, hf]

/-- Of the formats only YAML has faults of values: those of its reader, and a value without end. -/
theorem read_eq_value_fault_iff {format : TextFormat} {text : String} {f : Yaml.ValueFault} :
    (Node.read format .strict text).outcome = .error (.yaml (.value f)) ↔
      format = .yaml ∧ (Yaml.parse text = .error (.value f) ∨
        f = .endless ∧ ∃ v, Yaml.parse text = .ok v ∧ Node.Endless v) := by
  rw [Node.read]
  cases format with
  | json =>
    rw [TextFormat.parse]
    cases Json.parse text with
    | error fault => simp
    | ok j =>
      simp only [Node.isEndless_toValue]
      cases (Node.load .strict j.toValue).outcome <;> simp [Except.mapError]
  | yaml =>
    rw [TextFormat.parse]
    cases Yaml.parse text with
    | error fault => simp
    | ok v =>
      by_cases hv : Node.isEndless .strict v = true
      · have hendless := (Node.isEndless_iff v).mp hv
        simp [hv, hendless, eq_comm]
      · have hends : ¬ Node.Endless v := fun h => hv ((Node.isEndless_iff v).mpr h)
        cases hl : (Node.load .strict v).outcome <;> simp [hv, hends, Except.mapError, hl]

private theorem load_of_find?_error {files : Files} {here : Location} {q : Problem}
    (hsuffix : (Path.ofString source).suffix ∈ sourceSuffixes)
    (hfind : find? files here (Path.ofString source) = .error q) :
    load files here source = .error q := by
  cases hf : TextFormat.ofSuffix? (Path.ofString source).suffix with
  | none => exact absurd hsuffix ((ofSuffix?_eq_none_iff _).mp hf)
  | some format =>
    have hformat : sourceFormat (Path.ofString source) = .ok format := by rw [sourceFormat, hf]
    simp only [load, hformat, hfind]
    rfl

private theorem load_of_value_fault {l : Location} {bytes : ByteArray} {text : String}
    {f : Yaml.ValueFault}
    (hsuffix : TextFormat.ofSuffix? (Path.ofString source).suffix = some .yaml)
    (hfile : FileAt w.files w.here (Path.ofString source) l bytes)
    (htext : Text.ofBytes? bytes = some text)
    (hread : (Node.read .yaml .strict text).outcome = .error (.yaml (.value f)))
    (hf : f.family ≠ .unfit) : ∃ x, load w.files w.here source = .error (.fault x) := by
  have hformat : sourceFormat (Path.ofString source) = .ok .yaml := by rw [sourceFormat, hsuffix]
  obtain ⟨x, hx⟩ := readProblem_eq_fault_iff.mpr ⟨f, rfl, hf⟩
  refine ⟨x, ?_⟩
  rw [load_eq_of_fileAt hformat hfile htext, hread, Except.mapError, hx]

/-- Reading ends with a fault exactly where the path is refused, the reader stumbles or the content
goes round. -/
theorem load_eq_fault_iff (w : World) (source : String) :
    (∃ x, load w.files w.here source = .error (.fault x)) ↔
      Refused w source ∨ Stumbles w source ∨ Circles w source := by
  constructor
  · rintro ⟨x, hx⟩
    have hloaded := loaded w.files w.here source
    rw [hx] at hloaded
    generalize hq : Problem.fault x = q at hloaded
    cases hloaded with
    | unsupported | missing | directory | bytes => cases hq
    | unreachable hformat hfind =>
      exact .inl ⟨suffix_mem_of_sourceFormat hformat, find?_eq_error_iff.mp ⟨_, hfind⟩⟩
    | invalid hformat hfile htext he =>
      obtain ⟨f, rfl, hf⟩ := readProblem_eq_fault_iff.mp ⟨x, hq.symm⟩
      obtain ⟨rfl, hparse | ⟨rfl, v, hparse, hv⟩⟩ := read_eq_value_fault_iff.mp he
      · exact .inr (.inl ⟨_, _, _, f, sourceFormat_eq_ok hformat, hfile, htext, hparse, hf⟩)
      · exact .inr (.inr ⟨_, _, _, v, sourceFormat_eq_ok hformat, hfile, htext, hparse, hv⟩)
  · rintro (⟨hsuffix, hrefused⟩ | ⟨l, bytes, text, f, hsuffix, hfile, htext, hparse, hf⟩ |
      ⟨l, bytes, text, v, hsuffix, hfile, htext, hparse, hv⟩)
    · obtain ⟨q, hfind⟩ := find?_eq_error_iff.mpr hrefused
      obtain ⟨x, rfl⟩ := find?_eq_error hfind
      exact ⟨x, load_of_find?_error hsuffix hfind⟩
    · have hread := read_eq_value_fault_iff.mpr ⟨rfl, .inl hparse⟩
      exact load_of_value_fault hsuffix hfile htext hread hf
    · have hread := read_eq_value_fault_iff.mpr ⟨rfl, .inr ⟨rfl, v, hparse, hv⟩⟩
      exact load_of_value_fault hsuffix hfile htext hread nofun

private theorem answers_iff (w : World) (source : String) :
    Answers (load w.files w.here source) ↔
      ¬ Refused w source ∧ ¬ Stumbles w source ∧ ¬ Circles w source := by
  rw [← not_or, ← not_or, ← load_eq_fault_iff]
  constructor
  · rintro (⟨n, hn⟩ | ⟨f, hf, -⟩) ⟨x, hx⟩
    · rw [hn] at hx
      cases hx
    · rw [hf] at hx
      cases hx
  · intro hnone
    cases hload : load w.files w.here source with
    | ok n => exact .inl ⟨n, rfl⟩
    | error p =>
      cases p with
      | fault x => exact absurd ⟨x, hload⟩ hnone
      | failure f => exact .inr ⟨f, rfl, kind_of_load_eq_error hload⟩

/-- What a reader stumbles over is found in the text. -/
theorem hasPitfall_of_stumbles (h : Stumbles w source) :
    ∃ l bytes text, FileAt w.files w.here (Path.ofString source) l bytes ∧
      Text.ofBytes? bytes = some text ∧ HasPitfall text := by
  obtain ⟨l, bytes, text, f, -, hfile, htext, hparse, hf⟩ := h
  refine ⟨l, bytes, text, hfile, htext, ?_⟩
  rcases Yaml.misfits_of_parse hparse with ⟨hfault, rfl | rfl⟩ | ⟨d, hd, hmisfits⟩
  · exact absurd rfl hf
  · exact .inl hfault
  · exact .inr ⟨d, f, hd, hmisfits, hf⟩

private theorem run_build_of_load_error {t : Target} {pdf : Bool} {directory : Option String}
    {p : Problem} (h : load w.files w.here source = .error p) :
    (build source t.name pdf directory).run.run w = (.error p, w) := by
  rw [build, Target.ofName_name, Work.run_bind_ok (Work.run_ofFailure_ok t w),
    Work.run_bind_ok (Work.run_get w), h]
  exact Work.run_bind_error (Work.run_ofExcept _ w)

end Build

namespace CommandLine

open Build

/-- The arguments ask for a build of the source, and once the log is configured the world is the
second one. -/
def Configures (arguments : List String) (source : String) (w u : World) : Prop :=
  ∃ s level, settings arguments = .ok (source, s) ∧ s.target ≠ none ∧ s.logLevel? = some level ∧
    (Work.configure level s.logFile s.traced).run.run w = (.ok (), u)

variable {arguments : List String} {source : String} {w u : World}

private theorem run_of_load_error {p : Problem} (hu : Configures arguments source w u)
    (h : load u.files u.here source = .error p) :
    (run arguments).run.run w = (report p).run.run u := by
  obtain ⟨s, level, hs, htarget, hlevel, hconfigure⟩ := hu
  obtain ⟨t, ht⟩ := Option.ne_none_iff_exists'.mp htarget
  rw [run, hs]
  simp only [runBuild, hlevel, ht]
  rw [Work.run_bind_ok hconfigure]
  exact Work.run_tryCatch_error (Work.run_bind_error (run_build_of_load_error h)) _

private theorem exitCode_of_reading {f : Failure} (h : f.reason.kind ∈ readingKinds) :
    f.exitCode ∈ [4, 5, 6] := by
  obtain ⟨reason, cause⟩ := f
  cases reason with
  | format | fileNotFound | fileAccess | parsing =>
    simp [Failure.exitCode, Failure.Reason.category, Failure.Category.exitCode]
  | _ => simp [Failure.Reason.kind, readingKinds] at h

/-- A source is read or fails for a known reason, unless its path is refused, its reader stumbles,
which takes a pitfall in its text, or its content contains itself on the way of the loader. A run
shows a failure and ends with a code for it; it ends with a fault where the reading does, and shows
nothing. -/
theorem reports_reading (w : World) (source : String) :
    (Answers (load w.files w.here source) ↔
      ¬ Refused w source ∧ ¬ Stumbles w source ∧ ¬ Circles w source) ∧
    (Stumbles w source → ∃ l bytes text, FileAt w.files w.here (Path.ofString source) l bytes ∧
      Text.ofBytes? bytes = some text ∧ HasPitfall text) ∧
    ∀ arguments u, Configures arguments source w u →
      (∀ f, load u.files u.here source = .error (.failure f) →
        f.exitCode ∈ [4, 5, 6] ∧ ∃ v shown, (run arguments).run.run w = (.ok f.exitCode, v) ∧
          v.stderr = shown ++ s!"Error: {f.message}\n") ∧
      ∀ x, load u.files u.here source = .error (.fault x) →
        (run arguments).run.run w = (.error (.fault x), u) := by
  refine ⟨answers_iff w source, hasPitfall_of_stumbles, fun arguments u hu => ⟨?_, ?_⟩⟩
  · intro f hf
    refine ⟨exitCode_of_reading (kind_of_load_eq_error hf), ?_⟩
    rw [run_of_load_error hu hf]
    exact ⟨_, _, rfl, rfl⟩
  · intro x hx
    rw [run_of_load_error hu hx]
    rfl

theorem reports_reading_missing :
    ∃ v shown, (run ["build", "no.json"]).run.run sample = (.ok 4, v) ∧
      v.stderr = shown ++ "Error: File not found: no.json\n" := by
  have hconfigures : Configures ["build", "no.json"] "no.json" sample
      { sample with logging := sample.logging.reset Level.warning false } :=
    ⟨{}, Level.warning, rfl, nofun, rfl, rfl⟩
  obtain ⟨-, v, shown, hrun, hshown⟩ :=
    ((reports_reading sample "no.json").2.2 _ _ hconfigures).1 _ rfl
  exact ⟨v, shown, hrun, hshown⟩

def stumbling : World where
  files := { entries := [(["cv.yaml".toList], .file "!!bool maybe".toUTF8)] }

private theorem tokens_maybe : Yaml.Tokens.ofText "!!bool maybe" =
    { tokens := [.tag (some "!!") "bool", .scalar "maybe" true, .finish] } := by
  decide +kernel

set_option maxRecDepth 4000 in
private theorem parse_maybe :
    Yaml.parse "!!bool maybe" = .error (.value (.notTruth "maybe")) := by
  rw [Yaml.parse, tokens_maybe]
  rfl

theorem not_answers_stumbling :
    ¬ Answers (load stumbling.files stumbling.here "cv.yaml") ∧
      ∃ x u, (run ["build", "cv.yaml"]).run.run stumbling = (.error (.fault x), u) := by
  have hstumbles : ∀ u : World, u.files = stumbling.files → u.here = stumbling.here →
      Stumbles u "cv.yaml" := by
    intro u hfiles hhere
    refine ⟨["cv.yaml".toList], "!!bool maybe".toUTF8, "!!bool maybe", .notTruth "maybe", ?_⟩
    rw [hfiles, hhere]
    exact ⟨rfl, ⟨rfl, rfl⟩, rfl, parse_maybe, nofun⟩
  have hconfigures : Configures ["build", "cv.yaml"] "cv.yaml" stumbling
      { stumbling with logging := stumbling.logging.reset Level.warning false } :=
    ⟨{}, Level.warning, rfl, nofun, rfl, rfl⟩
  refine ⟨fun h => ((answers_iff stumbling "cv.yaml").mp h).2.1 (hstumbles stumbling rfl rfl), ?_⟩
  obtain ⟨x, hx⟩ := (load_eq_fault_iff _ "cv.yaml").mpr (.inr (.inl (hstumbles _ rfl rfl)))
  exact ⟨x, _, run_of_load_error hconfigures hx⟩

end CommandLine

end RichText
