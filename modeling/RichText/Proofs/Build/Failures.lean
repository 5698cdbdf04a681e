import RichText.Proofs.Build.Effect

/-!
What a failed build leaves. Until the source is read nothing changes, an output that cannot be
written leaves directories at most, and an engine is run once at most, on files that hold the whole
document already. That no engine is started is said by what other engines would change: nothing.
-/

set_option autoImplicit false
set_option relaxedAutoImplicit false

namespace RichText.Build

open Files (MadeWithin)

def failureKind? {α : Type} : Except Problem α → Option Failure.Kind
  | .error (.failure f) => some f.reason.kind
  | _ => none

def readingKinds : List Failure.Kind := [.format, .fileNotFound, .fileAccess, .parsing]

/-- No engine is started: whatever the engines are, the build ends the same. What an engine does to
the files is its own, so that one that was started would show. -/
def StartsNone (w : World) (source target : String) (pdf : Bool) (directory : Option String) :
    Prop :=
  ∀ engines : Engines, (build source target pdf directory).outcome { w with engines } =
    (build source target pdf directory).outcome w

def HoldsDocument (w : World) (source : String) (directory : Option String) (files : Files) :
    Prop :=
  ∃ n out, load w.files w.here source = .ok n ∧
    output source Target.latex.name directory = .ok out ∧
    FileAt files w.here out (World.absolute w.here out) (textOf .latex n).toUTF8

/-- The engine that is found was run once, and the files are what it made of those before. -/
def RunOnce (w : World) (before after : Files) : Prop :=
  ∃ e go arguments place, EngineName.found? w.engines = some e ∧
    w.engines.get? e.program = some (.program go) ∧ after = (go arguments place before).files

variable {w : World} {source target : String} {pdf : Bool} {directory : Option String}
  {r : Except Problem Path} {files : Files} {f : Failure} {p : Problem}

private theorem failureKind?_eq_some {k : Failure.Kind} (h : failureKind? r = some k) :
    ∃ f, r = .error (.failure f) ∧ f.reason.kind = k := by
  match r, h with
  | .error (.failure f), h => exact ⟨f, rfl, Option.some.inj h⟩

theorem kind_readProblem {path : Path} {e : ReadError} (h : readProblem path e = .failure f) :
    f.reason.kind = .parsing := by
  unfold readProblem at h
  split at h
  · split at h
    · rw [← Problem.failure.inj h]
      rfl
    · cases h
  · rw [← Problem.failure.inj h]
    rfl

theorem find?_eq_error {here : Location} {path : Path} (h : find? files here path = .error p) :
    ∃ fault, p = .fault fault := by
  rw [find?] at h
  split at h
  · cases h
  · split at h
    · cases h
    · cases h
    · cases h
    · exact ⟨_, (Except.error.inj h).symm⟩

private theorem kind_of_loaded {here : Location} {path : Path}
    (h : Loaded files here path (.error (.failure f))) : f.reason.kind ∈ readingKinds := by
  have hformat : Failure.Kind.format ∈ readingKinds := by decide
  have hnotFound : Failure.Kind.fileNotFound ∈ readingKinds := by decide
  have haccess : Failure.Kind.fileAccess ∈ readingKinds := by decide
  have hparsing : Failure.Kind.parsing ∈ readingKinds := by decide
  generalize hq : Problem.failure f = q at h
  cases h with
  | unsupported => exact Problem.failure.inj hq ▸ hformat
  | unreachable _ hfind =>
    obtain ⟨fault, rfl⟩ := find?_eq_error hfind
    cases hq
  | missing => exact Problem.failure.inj hq ▸ hnotFound
  | directory | bytes => exact Problem.failure.inj hq ▸ haccess
  | invalid => exact kind_readProblem hq.symm ▸ hparsing

private theorem kind_of_placed {d : Option Path} {out : Path} {text : String}
    (h : placed w d out text = (.error (.failure f), files)) : f.reason.kind = .outputWrite := by
  rcases (placed_eq_error h).2 with hp | ⟨e, place, hp⟩
  · cases hp
  · rw [Problem.failure.inj hp]
    rfl

private theorem kind_of_called {c : Command} (h : Called w c (.error (.failure f)) files) :
    f.reason.kind = .compile := by
  cases h with
  | refused | failed => rfl

theorem outputPlace_eq_error {here : Location} {d : Option Path} {out : Path}
    (h : outputPlace here d out = .error p) : p = .fault .nulInPath := by
  have hresolve {q : Problem} (path : Path) (h : World.resolve here path = .error q) :
      q = .fault .nulInPath := by
    rw [World.resolve] at h
    split at h
    · exact (Except.error.inj h).symm
    · cases h
  cases d with
  | some d => exact hresolve d h
  | none =>
    rw [outputPlace] at h
    cases hr : World.resolve here out with
    | error q =>
      rw [hr] at h
      exact Except.error.inj h ▸ hresolve out hr
    | ok l =>
      rw [hr] at h
      cases h

private theorem kind_of_compiled {d : Option Path} {out : Path}
    (h : Compiled w d out (.error (.failure f)) files) :
    (f.reason.kind = .dependency ∧ files = w.files) ∨ f.reason.kind = .compile := by
  generalize hq : Problem.failure f = q at h
  cases h with
  | unequipped =>
    rw [Problem.failure.inj hq]
    exact .inl ⟨rfl, rfl⟩
  | nowhere _ hplace =>
    rw [outputPlace_eq_error hplace] at hq
    cases hq
  | failed _ _ hcalled => exact .inr (kind_of_called (hq ▸ hcalled))

theorem Called.files_eq {c : Command} {r : Except Problem Output} (h : Called w c r files) :
    files = w.files ∨ ∃ go l, w.engines.get? c.program = some (.program go) ∧
      files = (go c.arguments l w.files).files := by
  cases h with
  | nul | refused => exact .inl rfl
  | garbled hs | failed hs | succeeded hs =>
    obtain ⟨go, l, hget, rfl⟩ := start_eq_ok hs
    exact .inr ⟨go, l, hget, rfl⟩

theorem Compiled.files_eq {d : Option Path} {out : Path} (h : Compiled w d out r files) :
    files = w.files ∨ RunOnce w w.files files := by
  cases h with
  | unequipped | nowhere => exact .inl rfl
  | failed he _ hcalled | succeeded he _ hcalled =>
    exact hcalled.files_eq.imp_right fun ⟨go, l, hget, hfiles⟩ => ⟨_, go, _, l, he, hget, hfiles⟩

/-- Until the output is written no step asks for an engine. -/
theorem startsNone_of_built (hw : w.logging.IsScreenOnly)
    (h : ∀ engines : Engines, Built { w with engines } source target pdf directory r files) :
    StartsNone w source target pdf directory := by
  intro engines
  have hother := build_ends (w := { w with engines }) hw (h engines)
  have hown := build_ends hw (h w.engines)
  exact hother.outcome_eq.trans hown.outcome_eq.symm

private theorem Built.of_load_error (h : Built w source target pdf directory r files)
    (hp : load w.files w.here source = .error p) :
    files = w.files ∧
      ∀ engines : Engines, Built { w with engines } source target pdf directory r files := by
  cases h with
  | untargeted ht => exact ⟨rfl, fun _ => .untargeted ht⟩
  | unread ht hn => exact ⟨rfl, fun _ => .unread ht hn⟩
  | unwritten _ hn | written _ hn | compiled _ hn =>
    rw [hp] at hn
    cases hn

private theorem Built.of_reading
    (h : Built w source target pdf directory (.error (.failure f)) files)
    (hf : f.reason.kind ∈ readingKinds) :
    files = w.files ∧ ∀ engines : Engines,
      Built { w with engines } source target pdf directory (.error (.failure f)) files := by
  cases h with
  | untargeted ht => exact ⟨rfl, fun _ => .untargeted ht⟩
  | unread ht hn => exact ⟨rfl, fun _ => .unread ht hn⟩
  | unwritten _ _ hplaced =>
    rw [kind_of_placed hplaced] at hf
    exact absurd hf (by decide)
  | compiled _ _ _ _ hr =>
    rcases kind_of_compiled hr with ⟨hkind, -⟩ | hkind
    · rw [hkind] at hf
      exact absurd hf (by decide)
    · rw [hkind] at hf
      exact absurd hf (by decide)

theorem kind_of_load_eq_error (h : load w.files w.here source = .error (.failure f)) :
    f.reason.kind ∈ readingKinds := by
  have hloaded := loaded w.files w.here source
  rw [h] at hloaded
  exact kind_of_loaded hloaded

private theorem kind_of_ofName_eq_error (h : Target.ofName target = .error f) :
    f.reason.kind = .format := by
  rw [Target.ofName] at h
  split at h
  · cases h
  · rw [← Except.error.inj h]
    rfl

private theorem Built.of_outputWrite
    (h : Built w source target pdf directory (.error (.failure f)) files)
    (hf : f.reason.kind = .outputWrite) :
    MadeWithin (World.chain w.here (directory? directory)) w.files files ∧ ∀ engines : Engines,
      Built { w with engines } source target pdf directory (.error (.failure f)) files := by
  cases h with
  | untargeted ht =>
    rw [kind_of_ofName_eq_error ht] at hf
    cases hf
  | unread _ hn =>
    have hreading := kind_of_load_eq_error hn
    rw [hf] at hreading
    exact absurd hreading (by decide)
  | unwritten ht hn hplaced =>
    exact ⟨(placed_eq_error hplaced).1, fun _ => .unwritten ht hn hplaced⟩
  | compiled _ _ _ _ hr =>
    rcases kind_of_compiled hr with ⟨hkind, -⟩ | hkind
    · rw [hkind] at hf
      cases hf
    · rw [hkind] at hf
      cases hf

private theorem holdsDocument_of_placed {n : Node} (hn : load w.files w.here source = .ok n)
    (hplaced : placed w (directory? directory) (outputOf source .latex directory)
      (textOf .latex n) = (.ok (), files)) : HoldsDocument w source directory files := by
  obtain ⟨format, -, -, -, hsource, -⟩ := load_eq_ok hn
  obtain ⟨made, hp⟩ := exists_placement (liesIn_outputPath .latex _ _) hplaced
  exact ⟨n, _, hn, output_eq_ok hsource .latex directory, hp.fileAt⟩

/-- A build ends as it does without compiling, or else it compiles what that has written. -/
theorem Built.uncompiled_or (h : Built w source target pdf directory r files) :
    Built w source target false directory r files ∨ ∃ out made,
      Built w source target false directory (.ok out) made ∧
      HoldsDocument w source directory made ∧
      Compiled { w with files := made } (directory? directory) out r files := by
  cases h with
  | untargeted ht => exact .inl (.untargeted ht)
  | unread ht hn => exact .inl (.unread ht hn)
  | unwritten ht hn hplaced => exact .inl (.unwritten ht hn hplaced)
  | written ht hn hplaced => exact .inl (.written ht hn hplaced fun _ => rfl)
  | compiled ht hn hplaced _ hr =>
    refine .inr ⟨_, _, .written ht hn hplaced fun _ => rfl, ?_, hr⟩
    exact holdsDocument_of_placed hn hplaced

private theorem Built.kind_of_uncompiled
    (h : Built w source target false directory (.error (.failure f)) files) :
    f.reason.kind ≠ .dependency ∧ f.reason.kind ≠ .compile := by
  have hreading : f.reason.kind ∈ readingKinds →
      f.reason.kind ≠ .dependency ∧ f.reason.kind ≠ .compile := by
    generalize f.reason.kind = k
    revert k
    decide
  cases h with
  | untargeted ht =>
    rw [kind_of_ofName_eq_error ht]
    decide
  | unread _ hn => exact hreading (kind_of_load_eq_error hn)
  | unwritten _ _ hplaced =>
    rw [kind_of_placed hplaced]
    decide
  | compiled _ _ _ hpdf => cases hpdf

/-- What a build leaves when it fails while no log file is open. A failure before writing changes
nothing and starts no engine; one of writing starts none either and leaves no more than new
directories on the way to the output. Where no engine is found the files are those of the build
without compiling. An engine is run once at most, on files that hold the whole document. -/
theorem build_failure (hw : w.logging.IsScreenOnly)
    (h : (build source target pdf directory).outcome w = (r, files)) :
    (∀ p, load w.files w.here source = .error p →
      files = w.files ∧ StartsNone w source target pdf directory) ∧
    (∀ k ∈ readingKinds, failureKind? r = some k →
      files = w.files ∧ StartsNone w source target pdf directory) ∧
    (failureKind? r = some .outputWrite →
      MadeWithin (World.chain w.here (directory? directory)) w.files files ∧
        StartsNone w source target pdf directory) ∧
    (failureKind? r = some .dependency →
      ∃ out, (build source target false directory).outcome w = (.ok out, files)) ∧
    (failureKind? r = some .compile →
      ∃ out made, (build source target false directory).outcome w = (.ok out, made) ∧
        HoldsDocument w source directory made ∧ (files = made ∨ RunOnce w made files)) ∧
    ∃ s made, (build source target false directory).outcome w = (s, made) ∧
      (files = made ∨ HoldsDocument w source directory made ∧ RunOnce w made files) := by
  have hbuilt := built_of_outcome hw h
  refine ⟨?_, ?_, ?_, ?_, ?_, ?_⟩
  · intro p hp
    obtain ⟨hfiles, hall⟩ := hbuilt.of_load_error hp
    exact ⟨hfiles, startsNone_of_built hw hall⟩
  · intro k hk hr
    obtain ⟨f, rfl, rfl⟩ := failureKind?_eq_some hr
    obtain ⟨hfiles, hall⟩ := hbuilt.of_reading hk
    exact ⟨hfiles, startsNone_of_built hw hall⟩
  · intro hr
    obtain ⟨f, rfl, hf⟩ := failureKind?_eq_some hr
    obtain ⟨hwithin, hall⟩ := hbuilt.of_outputWrite hf
    exact ⟨hwithin, startsNone_of_built hw hall⟩
  · intro hr
    obtain ⟨f, rfl, hf⟩ := failureKind?_eq_some hr
    rcases hbuilt.uncompiled_or with hplain | ⟨out, made, hplain, -, hr⟩
    · exact absurd hf hplain.kind_of_uncompiled.1
    · rcases kind_of_compiled hr with ⟨-, rfl⟩ | hkind
      · exact ⟨out, (build_ends hw hplain).outcome_eq⟩
      · rw [hf] at hkind
        cases hkind
  · intro hr
    obtain ⟨f, rfl, hf⟩ := failureKind?_eq_some hr
    rcases hbuilt.uncompiled_or with hplain | ⟨out, made, hplain, hdocument, hr⟩
    · exact absurd hf hplain.kind_of_uncompiled.2
    · exact ⟨out, made, (build_ends hw hplain).outcome_eq, hdocument, hr.files_eq⟩
  · rcases hbuilt.uncompiled_or with hplain | ⟨out, made, hplain, hdocument, hr⟩
    · exact ⟨r, files, (build_ends hw hplain).outcome_eq, .inl rfl⟩
    · have hfiles := hr.files_eq.imp_right fun hrun => And.intro hdocument hrun
      exact ⟨_, made, (build_ends hw hplain).outcome_eq, hfiles⟩

def wiping : World := { sample with
  engines := [("xelatex", .program fun _ _ _ =>
    { files := {}, status := 1, stdout := .empty, stderr := .empty })] }

theorem build_failure_wiping :
    failureKind? ((build "cv.json" "latex" true none).outcome wiping).1 = some .compile ∧
      ∃ out made, (build "cv.json" "latex" false none).outcome wiping = (.ok out, made) ∧
        HoldsDocument wiping "cv.json" none made := by
  have hkind : failureKind? ((build "cv.json" "latex" true none).outcome wiping).1 =
      some .compile := by
    decide +kernel
  have hscreen : wiping.logging.IsScreenOnly := fun _ h => nomatch h
  obtain ⟨-, -, -, -, hcompile, -⟩ := build_failure hscreen (Prod.eta _).symm
  obtain ⟨out, made, hout, hdocument, -⟩ := hcompile hkind
  exact ⟨hkind, out, made, hout, hdocument⟩

end RichText.Build
