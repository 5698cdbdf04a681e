import RichText.Proofs.Build.Delivery
import RichText.Proofs.CommandLine.ExitCode

/-!
The outcomes of a call. Whatever an engine does, a call ends with an output or with a failure that
tells how the engine ended, unless the system takes one of its texts for shorter than it is or the
engine prints bytes that are no text. A run that comes to a call ends with the exit code for it, and
with a fault where the call does.
-/

set_option autoImplicit false
set_option relaxedAutoImplicit false

namespace RichText

namespace Build

def Prints (run : EngineRun) (o : Output) : Prop :=
  Text.ofBytes? run.stdout = some o.stdout ∧ Text.ofBytes? run.stderr = some o.stderr

/-- A call whose texts reach the program as they are, and whose program prints text if it is run. -/
structure Clean (w : World) (c : Command) : Prop where
  passed : ∀ s ∈ c.directory :: c.line, World.holdsNul s = false
  printed : ∀ run, start w c = .ok run → ∃ o, Prints run o

/-- A failure that tells how a call ended: the call, the status of the program and what it printed.
There is no status if and only if no program was started, and nothing was printed then. -/
def Tells (w : World) (c : Command) (f : Failure) : Prop :=
  ∃ status o message, f.reason = .compile c.line status o.stdout o.stderr message ∧
    (status = none ↔ ∀ run, start w c ≠ .ok run) ∧
    (status = none → o = { stdout := "", stderr := "" }) ∧
    ∀ run, start w c = .ok run → status = some run.status ∧ run.status ≠ 0 ∧ Prints run o

variable {w : World} {c : Command} {r : Except Problem Output} {files : Files}

/-- Whatever the log is, records do not change how a call ends. -/
theorem outcome_compile (h : Called w c r files) : ((compile c).outcome w).1 = r := by
  rw [Work.outcome, compile, Work.run_bind_ok (Work.run_get w)]
  cases h with
  | nul hs | refused hs =>
    rw [hs]
    rfl
  | @garbled run hs hn =>
    rw [hs, Work.run_bind_ok (Work.run_set _ w)]
    rcases hn with hn | hn
    · rw [hn]
      rfl
    · rw [hn]
      cases Text.ofBytes? run.stdout <;> rfl
  | @failed run stdout stderr hs hout herr hstatus =>
    obtain ⟨v, hlog, -⟩ := Work.run_log .build Level.debug s!"stdout:\n{stdout}"
      { w with files := run.files }
    rw [hs, Work.run_bind_ok (Work.run_set _ w), hout, herr]
    simp only [Work.run_bind_ok hlog, if_neg hstatus]
    rfl
  | @succeeded run stdout stderr hs hout herr hstatus =>
    obtain ⟨v, hlog, -⟩ := Work.run_log .build Level.debug s!"stdout:\n{stdout}"
      { w with files := run.files }
    rw [hs, Work.run_bind_ok (Work.run_set _ w), hout, herr]
    simp only [Work.run_bind_ok hlog, if_pos hstatus]
    rfl

private theorem start_eq_nul_iff :
    start w c = .error .nulInPath ↔ ∃ s ∈ c.directory :: c.line, World.holdsNul s = true := by
  rw [start, ← List.any_eq_true]
  split
  · next h => simp [h]
  · next h =>
    simp only [h]
    split
    · simp
    · split <;> simp

private theorem holdsNul_eq_false (h : start w c ≠ .error .nulInPath) :
    ∀ s ∈ c.directory :: c.line, World.holdsNul s = false := by
  intro s hs
  by_contra hnul
  exact h (start_eq_nul_iff.mpr ⟨s, hs, by simpa using hnul⟩)

private theorem Called.fault_iff (h : Called w c r files) :
    (∃ x, r = .error (.fault x)) ↔ ¬ Clean w c := by
  cases h with
  | nul hs =>
    obtain ⟨s, hmem, hnul⟩ := start_eq_nul_iff.mp hs
    refine iff_of_true ⟨_, rfl⟩ fun hclean => ?_
    rw [hclean.passed s hmem] at hnul
    cases hnul
  | refused hs =>
    have hpassed := holdsNul_eq_false (w := w) (c := c) (by rw [hs]; exact nofun)
    have hclean : Clean w c := ⟨hpassed, fun run hrun => by cases hs.symm.trans hrun⟩
    exact iff_of_false (fun ⟨_, hx⟩ => nomatch hx) (not_not_intro hclean)
  | garbled hs hn =>
    refine iff_of_true ⟨_, rfl⟩ fun hclean => ?_
    obtain ⟨o, hout, herr⟩ := hclean.printed _ hs
    rcases hn with hn | hn
    · rw [hn] at hout
      cases hout
    · rw [hn] at herr
      cases herr
  | @failed run stdout stderr hs hout herr | @succeeded run stdout stderr hs hout herr =>
    have hpassed := holdsNul_eq_false (w := w) (c := c) (by rw [hs]; exact nofun)
    have hclean : Clean w c := by
      refine ⟨hpassed, fun other hother => ⟨{ stdout, stderr }, ?_⟩⟩
      obtain rfl := Except.ok.inj (hs.symm.trans hother)
      exact ⟨hout, herr⟩
    exact iff_of_false (fun ⟨_, hx⟩ => nomatch hx) (not_not_intro hclean)

private theorem Called.answered (h : Called w c r files) (hc : Clean w c) :
    (∃ o, r = .ok o) ∨ ∃ f, r = .error (.failure f) := by
  cases r with
  | ok o => exact .inl ⟨o, rfl⟩
  | error p =>
    cases p with
    | failure f => exact .inr ⟨f, rfl⟩
    | fault x => exact absurd hc (h.fault_iff.mp ⟨x, rfl⟩)

theorem Called.ok_iff (h : Called w c r files) (o : Output) :
    r = .ok o ↔ ∃ run, start w c = .ok run ∧ run.status = 0 ∧ Prints run o := by
  constructor
  · rintro rfl
    cases h with
    | succeeded hs hout herr hstatus => exact ⟨_, hs, hstatus, hout, herr⟩
  · rintro ⟨run, hrun, hzero, ho⟩
    cases h with
    | nul hs | refused hs =>
      rw [hs] at hrun
      cases hrun
    | garbled hs hn =>
      obtain rfl := Except.ok.inj (hs.symm.trans hrun)
      rcases hn with hn | hn
      · cases hn.symm.trans ho.1
      · cases hn.symm.trans ho.2
    | failed hs _ _ hstatus =>
      obtain rfl := Except.ok.inj (hs.symm.trans hrun)
      exact absurd hzero hstatus
    | succeeded hs hout herr =>
      obtain rfl := Except.ok.inj (hs.symm.trans hrun)
      have hstdout := Option.some.inj (hout.symm.trans ho.1)
      have hstderr := Option.some.inj (herr.symm.trans ho.2)
      rw [hstdout, hstderr]

private theorem Called.tells {f : Failure} (h : Called w c (.error (.failure f)) files) :
    Tells w c f ∧ f.exitCode = 7 := by
  cases h with
  | refused hs =>
    have hnone : ∀ run, start w c ≠ .ok run := by
      intro run hrun
      rw [hs] at hrun
      cases hrun
    refine ⟨⟨none, { stdout := "", stderr := "" }, _, rfl, iff_of_true rfl hnone, fun _ => rfl, ?_⟩,
      rfl⟩
    exact fun run hrun => absurd hrun (hnone run)
  | @failed run stdout stderr hs hout herr hstatus =>
    refine ⟨⟨some run.status, { stdout, stderr }, none, rfl,
      iff_of_false nofun fun hnone => hnone run hs, nofun, ?_⟩, rfl⟩
    intro other hother
    obtain rfl := Except.ok.inj (hs.symm.trans hother)
    exact ⟨rfl, hstatus, hout, herr⟩

def prepare (source : String) (directory : Option String) : Work (Path × Command) := do
  let w ← get
  let n ← Work.ofExcept (load w.files w.here source)
  reportRoot n
  let out ← generate source n Target.latex.name directory
  let c ← latexCommand source directory
  let line := String.ofList (Text.shownText (String.intercalate " " c.line).toList)
  Work.status s!"Generating PDF file with command: `{line}`..."
  pure (out, c)

private theorem build_eq (source : String) (directory : Option String) :
    build source Target.latex.name true directory = (do
      let called ← prepare source directory
      let _ ← compile called.2
      Work.status "Generated PDF file successfully."
      pure ((pdfPath? called.1).getD called.1)) := by
  have htarget : Work.ofFailure (Target.ofName Target.latex.name) = pure Target.latex := rfl
  simp only [build, htarget, prepare, finish, compileOutput, pure_bind, bind_assoc]

end Build

namespace CommandLine

open Build

/-- A run on the arguments comes to the call of an engine, and the world is the second one then. -/
def Calls (arguments : List String) (w : World) (c : Command) (u : World) : Prop :=
  ∃ source s level v out, settings arguments = .ok (source, s) ∧ s.target = some .latex ∧
    s.pdf = true ∧ s.logLevel? = some level ∧
    (Work.configure level s.logFile s.traced).run.run w = (.ok (), v) ∧
    (prepare source s.directory).run.run v = (.ok (out, c), u)

variable {arguments : List String} {w u : World} {c : Command}

def ending : Except Problem Output → Except Problem Nat
  | .ok _ => .ok 0
  | .error (.failure f) => .ok f.exitCode
  | .error (.fault x) => .error (.fault x)

private theorem run_of_calls (h : Calls arguments w c u) :
    ((run arguments).outcome w).1 = ending ((compile c).outcome u).1 := by
  obtain ⟨source, s, level, v, out, hs, htarget, hpdf, hlevel, hconfigure, hprepare⟩ := h
  have hrun : (run arguments).run.run w = (tryCatch (do
      let _ ← build source Target.latex.name true s.directory
      pure 0) report).run.run v := by
    rw [run, hs]
    simp only [runBuild, hlevel, htarget, hpdf]
    exact Work.run_bind_ok hconfigure
  rw [Work.outcome, hrun, Work.outcome]
  cases hcompile : (compile c).run.run u with
  | mk r x =>
    cases r with
    | ok o =>
      have hbuild : (build source Target.latex.name true s.directory).run.run v =
          (.ok ((pdfPath? out).getD out),
            x.showLine (Text.wrapped World.screenWidth "Generated PDF file successfully.")) := by
        rw [build_eq, Work.run_bind_ok hprepare, Work.run_bind_ok hcompile]
        rfl
      have hcode : (do
          let _ ← build source Target.latex.name true s.directory
          pure 0 : Work Nat).run.run v = (.ok 0, _) := Work.run_bind_ok hbuild
      rw [Work.run_tryCatch_ok hcode]
      rfl
    | error p =>
      have hbuild : (build source Target.latex.name true s.directory).run.run v =
          (.error p, x) := by
        rw [build_eq, Work.run_bind_ok hprepare, Work.run_bind_error hcompile]
      rw [Work.run_tryCatch_error (Work.run_bind_error hbuild)]
      cases p <;> rfl

/-- A call ends with a fault exactly if it is not clean. Else it has an output if and only if the
program was started and ended with status zero, and fails otherwise, with all that is known of how
it ended; and a run that comes to the call ends with zero or with the code of such failures. -/
theorem outcome_call (c : Command) (w : World) :
    ((∃ x, ((compile c).outcome w).1 = .error (.fault x)) ↔ ¬ Clean w c) ∧
      (∀ o, ((compile c).outcome w).1 = .ok o ↔
        ∃ run, start w c = .ok run ∧ run.status = 0 ∧ Prints run o) ∧
      (Clean w c → ((∃ o, ((compile c).outcome w).1 = .ok o) ↔
        ∃ run, start w c = .ok run ∧ run.status = 0)) ∧
      (∀ f, ((compile c).outcome w).1 = .error (.failure f) → Tells w c f ∧ f.exitCode = 7) ∧
      ∀ arguments u, Calls arguments u c w →
        ((run arguments).outcome u).1 = ending ((compile c).outcome w).1 ∧
          (Clean w c → ((run arguments).outcome u).1 ∈ [.ok 0, .ok 7]) := by
  obtain ⟨r, files, hr⟩ := exists_called w c
  simp only [outcome_compile hr]
  refine ⟨hr.fault_iff, hr.ok_iff, fun hc => ⟨?_, ?_⟩, ?_, fun arguments u hu => ?_⟩
  · rintro ⟨o, ho⟩
    obtain ⟨run, hrun, hzero, -⟩ := (hr.ok_iff o).mp ho
    exact ⟨run, hrun, hzero⟩
  · rintro ⟨run, hrun, hzero⟩
    obtain ⟨o, ho⟩ := hc.printed run hrun
    exact ⟨o, (hr.ok_iff o).mpr ⟨run, hrun, hzero, ho⟩⟩
  · rintro f rfl
    exact hr.tells
  · have hending := run_of_calls hu
    rw [outcome_compile hr] at hending
    refine ⟨hending, fun hc => ?_⟩
    rw [hending]
    rcases hr.answered hc with ⟨o, rfl⟩ | ⟨f, rfl⟩
    · exact List.mem_cons_self
    · have hcode : ending (.error (.failure f)) = .ok 7 := congrArg Except.ok hr.tells.2
      rw [hcode]
      exact List.mem_cons_of_mem _ List.mem_cons_self

def sampleCall : Command where
  program := "xelatex"
  arguments := ["-halt-on-error", "cv.tex"]
  directory := "/"

private theorem exists_calls_sample (engines : Engines) {α : Type} (seen : EngineRun → α) (a : α)
    (hprepared : ((prepare "cv.json" none).run.run { sample with
      engines, logging := sample.logging.reset Level.warning false }).1.toOption =
        some (Path.ofString "cv.tex", sampleCall))
    (hstarted : (start ((prepare "cv.json" none).run.run { sample with
      engines, logging := sample.logging.reset Level.warning false }).2 sampleCall).toOption.map
        seen = some a) :
    ∃ u run, Calls ["build", "cv.json"] { sample with engines } sampleCall u ∧
      start u sampleCall = .ok run ∧ seen run = a := by
  generalize hprepare : (prepare "cv.json" none).run.run _ = prepared at hprepared hstarted
  obtain ⟨r, u⟩ := prepared
  obtain rfl := Work.eq_ok_of_toOption hprepared
  have hcalls : Calls ["build", "cv.json"] { sample with engines } sampleCall u :=
    ⟨"cv.json", {}, Level.warning, _, _, rfl, rfl, rfl, rfl, rfl, hprepare⟩
  cases hs : start u sampleCall with
  | error e =>
    rw [hs] at hstarted
    cases hstarted
  | ok run =>
    rw [hs] at hstarted
    exact ⟨u, run, hcalls, hs, Option.some.inj hstarted⟩

theorem outcome_call_wiping :
    ∃ u f, Calls ["build", "cv.json"] wiping sampleCall u ∧ Clean u sampleCall ∧
      ((compile sampleCall).outcome u).1 = .error (.failure f) ∧ Tells u sampleCall f ∧
      ((run ["build", "cv.json"]).outcome wiping).1 = .ok 7 := by
  obtain ⟨u, wiped, hcalls, hstart, hseen⟩ := exists_calls_sample wiping.engines
    (fun run => (run.status, Text.ofBytes? run.stdout, Text.ofBytes? run.stderr))
    (1, some "", some "") (by decide +kernel) (by decide +kernel)
  obtain ⟨hstatus, hprinted⟩ := Prod.mk.inj hseen
  obtain ⟨hstdout, hstderr⟩ := Prod.mk.inj hprinted
  have hclean : Clean u sampleCall := by
    refine ⟨by decide, fun other hother => ⟨{ stdout := "", stderr := "" }, ?_⟩⟩
    obtain rfl := Except.ok.inj (hstart.symm.trans hother)
    exact ⟨hstdout, hstderr⟩
  obtain ⟨hfault, -, hok, htells, hruns⟩ := outcome_call sampleCall u
  obtain ⟨hending, -⟩ := hruns _ _ hcalls
  cases hr : ((compile sampleCall).outcome u).1 with
  | ok o =>
    obtain ⟨other, hother, hzero⟩ := (hok hclean).mp ⟨o, hr⟩
    obtain rfl := Except.ok.inj (hstart.symm.trans hother)
    cases hstatus.symm.trans hzero
  | error p =>
    cases p with
    | fault x => exact absurd hclean (hfault.mp ⟨x, hr⟩)
    | failure f =>
      obtain ⟨hf, hseven⟩ := htells f hr
      rw [hr] at hending
      exact ⟨u, f, hcalls, hclean, hr, hf, hending.trans (congrArg Except.ok hseven)⟩

/-- The sample with an engine that ends with status zero and prints a byte that is no text. -/
def garbling : World := { sample with
  engines := [("xelatex", .program fun _ _ files =>
    { files, status := 0, stdout := .mk #[0xff], stderr := .empty })] }

/-- Bytes that are no text are a fault although the engine has ended with status zero, and so is a
text that the system takes for shorter than it is. -/
theorem outcome_call_garbling :
    (∃ u run, Calls ["build", "cv.json"] garbling sampleCall u ∧ start u sampleCall = .ok run ∧
      run.status = 0 ∧ ((compile sampleCall).outcome u).1 = .error (.fault .notUtf8) ∧
      ((CommandLine.run ["build", "cv.json"]).outcome garbling).1 = .error (.fault .notUtf8)) ∧
    ((compile { program := "xelatex", arguments := ["a\x00b"] }).outcome garbling).1 =
      .error (.fault .nulInPath) := by
  have hnul : start garbling { program := "xelatex", arguments := ["a\x00b"] } =
      .error .nulInPath := start_eq_nul_iff.mpr ⟨"a\x00b", by decide, by decide⟩
  refine ⟨?_, outcome_compile (.nul hnul)⟩
  obtain ⟨u, printing, hcalls, hstart, hseen⟩ := exists_calls_sample garbling.engines
    (fun run => (run.status, Text.ofBytes? run.stdout)) (0, none)
    (by decide +kernel) (by decide +kernel)
  obtain ⟨hzero, hbytes⟩ := Prod.mk.inj hseen
  have hgarbled := outcome_compile (.garbled hstart (.inl hbytes))
  have hended := run_of_calls hcalls
  rw [hgarbled] at hended
  exact ⟨u, printing, hcalls, hstart, hzero, hgarbled, hended⟩

end CommandLine

end RichText
