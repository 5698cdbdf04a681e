import RichText.Build
import RichText.Proofs.Build.Output
import RichText.Proofs.World.Ends

/-!
How compiling an output ends. An engine is looked for first, then the directory it is run in; only
then it is started, once, on the files as they are. The log and the messages along the way play no
part in it.
-/

set_option autoImplicit false
set_option relaxedAutoImplicit false

namespace RichText.Build

/-- How a call ends. Where a program was started, the files are those that it leaves. -/
inductive Called (w : World) (c : Command) : Except Problem Output → Files → Prop
  | nul : start w c = .error .nulInPath → Called w c (.error (.fault .nulInPath)) w.files
  | refused {e : SystemError} {subject : String} : start w c = .error (.refused e subject) →
      Called w c (.error (.failure {
        reason := .compile c.line none "" ""
          (some s!"Failed to run {c.program}: {e.message subject}")
        cause := some (e.message subject) })) w.files
  | garbled {run : EngineRun} : start w c = .ok run →
      Text.ofBytes? run.stdout = none ∨ Text.ofBytes? run.stderr = none →
      Called w c (.error (.fault .notUtf8)) run.files
  | failed {run : EngineRun} {stdout stderr : String} : start w c = .ok run →
      Text.ofBytes? run.stdout = some stdout → Text.ofBytes? run.stderr = some stderr →
      run.status ≠ 0 → Called w c (.error (.failure {
        reason := .compile c.line (some run.status) stdout stderr none })) run.files
  | succeeded {run : EngineRun} {stdout stderr : String} : start w c = .ok run →
      Text.ofBytes? run.stdout = some stdout → Text.ofBytes? run.stderr = some stderr →
      run.status = 0 → Called w c (.ok { stdout, stderr }) run.files

inductive Compiled (w : World) (directory : Option Path) (out : Path) :
    Except Problem Path → Files → Prop
  | unequipped : EngineName.found? w.engines = none →
      Compiled w directory out (.error (.failure noEngine)) w.files
  | nowhere {e : EngineName} {p : Problem} : EngineName.found? w.engines = some e →
      outputPlace w.here directory out = .error p → Compiled w directory out (.error p) w.files
  | failed {e : EngineName} {place : Location} {p : Problem} {files : Files} :
      EngineName.found? w.engines = some e → outputPlace w.here directory out = .ok place →
      Called w (e.call out place) (.error p) files → Compiled w directory out (.error p) files
  | succeeded {e : EngineName} {place : Location} {o : Output} {files : Files} :
      EngineName.found? w.engines = some e → outputPlace w.here directory out = .ok place →
      Called w (e.call out place) (.ok o) files →
      Compiled w directory out (.ok ((pdfPath? out).getD out)) files

variable {v w : World}

theorem start_congr (h : v.Agree w) (c : Command) : start v c = start w c := by
  simp only [start, runDirectory, findProgram, pathError, h.files, h.here, h.engines]

theorem start_eq_ok {c : Command} {run : EngineRun} (h : start w c = .ok run) :
    ∃ go l, w.engines.get? c.program = some (.program go) ∧ run = go c.arguments l w.files := by
  rw [start] at h
  split at h
  · cases h
  · split at h
    · cases h
    · next l _ =>
      split at h
      · cases h
      · next go hgo =>
        refine ⟨go, l, ?_, (Except.ok.inj h).symm⟩
        rw [findProgram] at hgo
        split at hgo
        · cases hgo
        · split at hgo
          · next hget => rw [hget, Except.ok.inj hgo]
          · cases hgo
          · cases hgo
          · split at hgo
            · cases hgo
            · split at hgo
              · cases hgo
              · cases hgo

theorem exists_called (w : World) (c : Command) : ∃ r files, Called w c r files := by
  cases hs : start w c with
  | error e =>
    cases e with
    | nulInPath => exact ⟨_, _, .nul hs⟩
    | refused e subject => exact ⟨_, _, .refused hs⟩
  | ok run =>
    cases hout : Text.ofBytes? run.stdout with
    | none => exact ⟨_, _, .garbled hs (.inl hout)⟩
    | some stdout =>
      cases herr : Text.ofBytes? run.stderr with
      | none => exact ⟨_, _, .garbled hs (.inr herr)⟩
      | some stderr =>
        by_cases hstatus : run.status = 0
        · exact ⟨_, _, .succeeded hs hout herr hstatus⟩
        · exact ⟨_, _, .failed hs hout herr hstatus⟩

theorem Called.congr (h : v.Agree w) {c : Command} {r : Except Problem Output} {files : Files}
    (hr : Called w c r files) : Called v c r files := by
  cases hr with
  | nul hs => exact h.files ▸ .nul ((start_congr h c).trans hs)
  | refused hs => exact h.files ▸ .refused ((start_congr h c).trans hs)
  | garbled hs hn => exact .garbled ((start_congr h c).trans hs) hn
  | failed hs hout herr hstatus => exact .failed ((start_congr h c).trans hs) hout herr hstatus
  | succeeded hs hout herr hstatus =>
    exact .succeeded ((start_congr h c).trans hs) hout herr hstatus

private theorem compile_ends (hw : w.logging.IsScreenOnly) {c : Command} {r : Except Problem Output}
    {files : Files} (hr : Called w c r files) : Work.Ends (compile c) w r files := by
  refine Work.Ends.get_bind ?_
  have hset := fun run : EngineRun => Work.ends_set w run.files
  cases hr with
  | nul hs =>
    rw [hs]
    exact Work.ends_throw _ w
  | refused hs =>
    rw [hs]
    exact Work.ends_fail _ w
  | garbled hs hn =>
    rw [hs]
    refine (hset _).bind fun v hv => ?_
    -- the program has run by now, so that its files stay although its output is no text
    have hthrow : Work.Ends (throw (.fault .notUtf8) : Work Output) v _ _ :=
      (Work.ends_throw _ v).leaving hv.files
    rcases hn with hn | hn
    · rw [hn]
      exact hthrow
    · rw [hn]
      split
      · next he => cases he
      · exact hthrow
  | failed hs hout herr hstatus =>
    rw [hs]
    refine (hset _).bind fun v hv => ?_
    rw [hout, herr]
    have hquiet := hv.isScreenOnly hw
    refine (Work.ends_log hquiet _ _ _).bind fun u hu => ?_
    rw [if_neg hstatus]
    refine (Work.ends_log (hu.isScreenOnly hquiet) _ _ _).bind fun x hx => ?_
    exact (Work.ends_fail _ x).leaving (hx.files.trans (hu.files.trans hv.files))
  | succeeded hs hout herr hstatus =>
    rw [hs]
    refine (hset _).bind fun v hv => ?_
    rw [hout, herr]
    refine (Work.ends_log (hv.isScreenOnly hw) _ _ _).bind fun u hu => ?_
    rw [if_pos hstatus]
    exact (Work.ends_pure _ u).leaving (hu.files.trans hv.files)

private theorem engine_ends_none (h : EngineName.found? w.engines = none) :
    Work.Ends engine w (.error (.failure noEngine)) w.files := by
  refine Work.Ends.get_bind ?_
  rw [h]
  exact Work.ends_fail _ w

private theorem engine_ends_some (hw : w.logging.IsScreenOnly) {e : EngineName}
    (h : EngineName.found? w.engines = some e) : Work.Ends engine w (.ok e) w.files := by
  refine Work.Ends.get_bind ?_
  rw [h]
  refine (Work.ends_log hw _ _ _).bind fun v hv => ?_
  exact (Work.ends_pure e v).leaving hv.files

variable {source : String} {format : TextFormat}

private theorem latexCommand_ends (hw : w.logging.IsScreenOnly)
    (hsource : sourceFormat (Path.ofString source) = .ok format) (directory : Option String)
    {e : EngineName} (he : EngineName.found? w.engines = some e) :
    Work.Ends (latexCommand source directory) w
      ((outputPlace w.here (directory? directory) (outputOf source .latex directory)).map
        fun place => e.call (outputOf source .latex directory) place) w.files := by
  refine (engine_ends_some hw he).bind fun v hv => ?_
  rw [output_eq_ok hsource .latex directory]
  refine (Work.ends_ofFailure_ok _ v).bind fun u hu => Work.Ends.get_bind ?_
  have hu := hu.trans hv
  rw [hu.here]
  generalize outputPlace w.here (directory? directory) (outputOf source .latex directory) = place
  have hplace := (Work.ends_ofExcept place u).leaving hu.files
  cases place with
  | error p => exact hplace.bind_error
  | ok place =>
    refine hplace.bind fun x hx => ?_
    exact (Work.ends_pure _ x).leaving hx.files

theorem exists_compiled (w : World) (directory : Option Path) (out : Path) :
    ∃ r files, Compiled w directory out r files := by
  cases he : EngineName.found? w.engines with
  | none => exact ⟨_, _, .unequipped he⟩
  | some e =>
    cases hp : outputPlace w.here directory out with
    | error p => exact ⟨_, _, .nowhere he hp⟩
    | ok place =>
      obtain ⟨r, files, hr⟩ := exists_called w (e.call out place)
      cases r with
      | error p => exact ⟨_, _, .failed he hp hr⟩
      | ok o => exact ⟨_, _, .succeeded he hp hr⟩

theorem Compiled.congr (h : v.Agree w) {directory : Option Path} {out : Path}
    {r : Except Problem Path} {files : Files} (hr : Compiled w directory out r files) :
    Compiled v directory out r files := by
  cases hr with
  | unequipped he => exact h.files ▸ .unequipped (h.engines ▸ he)
  | nowhere he hp => exact h.files ▸ .nowhere (h.engines ▸ he) (h.here ▸ hp)
  | failed he hp hr => exact .failed (h.engines ▸ he) (h.here ▸ hp) (hr.congr h)
  | succeeded he hp hr => exact .succeeded (h.engines ▸ he) (h.here ▸ hp) (hr.congr h)

theorem compileOutput_ends (hw : w.logging.IsScreenOnly)
    (hsource : sourceFormat (Path.ofString source) = .ok format) {directory : Option String}
    {r : Except Problem Path} {files : Files}
    (hr : Compiled w (directory? directory) (outputOf source .latex directory) r files) :
    Work.Ends (compileOutput source directory (outputOf source .latex directory)) w r files := by
  cases hr with
  | unequipped he =>
    have hcommand : Work.Ends (latexCommand source directory) w (.error (.failure noEngine))
        w.files := (engine_ends_none he).bind_error
    exact hcommand.bind_error
  | nowhere he hp =>
    have hcommand := latexCommand_ends hw hsource directory he
    rw [hp] at hcommand
    exact hcommand.bind_error
  | failed he hp hr =>
    have hcommand := latexCommand_ends hw hsource directory he
    rw [hp] at hcommand
    refine hcommand.bind fun v hv => (Work.ends_status v _).bind fun u hu => ?_
    have hu := hu.trans hv
    exact (compile_ends (hu.isScreenOnly hw) (hr.congr hu.toAgree)).bind_error
  | succeeded he hp hr =>
    have hcommand := latexCommand_ends hw hsource directory he
    rw [hp] at hcommand
    refine hcommand.bind fun v hv => (Work.ends_status v _).bind fun u hu => ?_
    have hu := hu.trans hv
    refine (compile_ends (hu.isScreenOnly hw) (hr.congr hu.toAgree)).bind fun x hx => ?_
    refine (Work.ends_status x _).bind fun y hy => ?_
    exact (Work.ends_pure _ y).leaving (hy.files.trans hx.files)

end RichText.Build
