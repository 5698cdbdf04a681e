import RichText.Proofs.Logging.Names
import RichText.Proofs.World.Continuing

/-!
What a configured log writes. Each configuration takes the place of the one before it: from then on
a record of the library is written once to the screen, and once to the file of this configuration if
it could be opened, when its level is positive and not below that of the configuration. Nothing else
changes, whatever was configured and logged before.
-/

set_option autoImplicit false
set_option relaxedAutoImplicit false

namespace RichText

/-- What a log is configured with. A level that is zero would stand for another one, and the name of
a file reaches the system as it is. -/
structure Configuration where
  level : Int
  file : Option String := none
  traced : Bool := false
  level_ne : level ≠ 0
  file_passed : ∀ s, file = some s → World.holdsNul s = false

abbrev OwnRecord : Type := { r : Record // Logging.IsWithin r.logger.toList }

def Files.content (f : Files) (l : Location) : ByteArray :=
  match f.entry? l with
  | some (.file bytes) => bytes
  | _ => ByteArray.empty

private theorem Files.entry?_append (f : Files) {l : Location} (hl : f.entry? l ≠ some .directory)
    (bytes : ByteArray) (k : Location) : entry? (f.append l bytes) k =
      if k = l then some (.file (f.content l ++ bytes)) else f.entry? k := by
  have hne : l ≠ [] := ne_nil_of_entry?_ne hl
  rw [append, content]
  cases he : f.entry? l with
  | none =>
    rw [ByteArray.empty_append]
    exact entry?_put f hne _ k
  | some e =>
    cases e with
    | directory => exact absurd he hl
    | file old => exact entry?_put f hne _ k

/-- Some bytes were added at the end of the file at a place, which may be new, and nothing else was
changed; without a place nothing was changed at all. -/
def Files.Gains (f : Files) (place? : Option Location) (bytes : ByteArray) (g : Files) : Prop :=
  ∀ k, g.entry? k = if place? = some k then some (.file (f.content k ++ bytes)) else f.entry? k

private theorem Files.gains_none (f : Files) (bytes : ByteArray) :
    f.Gains none bytes f := fun _ => rfl

private theorem Files.gains_append (f : Files) {l : Location} (hl : f.entry? l ≠ some .directory)
    (bytes : ByteArray) : f.Gains (some l) bytes (f.append l bytes) := by
  intro k
  rw [entry?_append f hl]
  by_cases hk : k = l
  · subst hk
    rw [if_pos rfl, if_pos rfl]
  · rw [if_neg hk, if_neg (by simpa using Ne.symm hk)]

theorem Files.Gains.append {f g : Files} {l : Location} {bytes : ByteArray}
    (h : f.Gains (some l) bytes g) (more : ByteArray) :
    f.Gains (some l) (bytes ++ more) (g.append l more) := by
  intro k
  have hl := h l
  rw [if_pos rfl] at hl
  rw [entry?_append g (by simp [hl]), content, hl]
  by_cases hk : k = l
  · subst hk
    rw [if_pos rfl, if_pos rfl, ByteArray.append_assoc]
  · rw [if_neg hk, h k]
    simp [Ne.symm hk]

/-- The place of a log file, or why it cannot be opened. All above it must be directories, and it
must be none. -/
def World.logPlace (w : World) (file : String) : Except String Location :=
  let path := Path.ofString file
  let l := absolute w.here path
  let shown := path.root.above ++ l.toString
  if Files.isPathTooLong shown then .error (SystemError.nameTooLong.message shown)
  else match w.files.walk [] l with
    | .error e => .error (e.message shown)
    | .ok _ =>
      if w.files.entry? l = some .directory then .error (SystemError.isDirectory.message shown)
      else .ok l

private theorem World.entry?_of_logPlace {w : World} {file : String} {l : Location}
    (h : w.logPlace file = .ok l) : w.files.entry? l ≠ some .directory := by
  rw [logPlace] at h
  split at h
  · cases h
  · split at h
    · cases h
    · split at h
      · cases h
      · next hne => exact Except.ok.inj h ▸ hne

private theorem Work.run_openLog {file : String} (h : World.holdsNul file = false) (w : World) :
    (openLog file).run.run w = match w.logPlace file with
      | .error reason => (.ok (.error reason), w)
      | .ok l => (.ok (.ok l), { w with files := w.files.append l ByteArray.empty }) := by
  rw [openLog, run_bind_ok (run_get w), World.logPlace]
  simp only [h, Bool.false_eq_true, if_false]
  by_cases hlong : Files.isPathTooLong ((Path.ofString file).root.above ++
      (World.absolute w.here (Path.ofString file)).toString) = true
  · simp only [hlong, if_true]
    rfl
  · simp only [hlong]
    cases hwalk : w.files.walk [] (World.absolute w.here (Path.ofString file)) with
    | error e => rfl
    | ok k =>
      cases he : w.files.entry? (World.absolute w.here (Path.ofString file)) with
      | none => rfl
      | some e => cases e <;> rfl

private theorem Logging.level_use (l : Logging) (logger : String) :
    (l.use logger).level = l.level := by
  rw [Logging.use]
  split
  · rfl
  · rfl

namespace Configuration

/-- The log file that a configuration names and how opening it ends; an empty name stands for none.
-/
def opening (c : Configuration) (w : World) : Option (String × Except String Location) :=
  match c.file with
  | none => none
  | some "" => none
  | some file => some (file, w.logPlace file)

def place? (c : Configuration) (w : World) : Option Location :=
  (c.opening w).bind fun o => o.2.toOption

def notice (c : Configuration) (w : World) : List OwnRecord :=
  (c.opening w).toList.map fun o => ⟨{
    logger := Logger.library.name
    level := match o.2 with
      | .error _ => Level.warning
      | .ok _ => Level.debug
    message := match o.2 with
      | .error reason => s!"Could not open log file {o.1}: {reason}"
      | .ok _ => s!"Logging to file: {o.1}" }, .library⟩

def sinks (place? : Option Location) : List Sink := .screen :: place?.toList.map .file

def handler (c : Configuration) (sink : Sink) : Handler :=
  { level := c.level, traced := c.traced, sink }

def handlers (c : Configuration) (place? : Option Location) : List Handler :=
  (sinks place?).map c.handler

def writes (c : Configuration) (r : OwnRecord) : Bool := 0 < r.1.level && c.level ≤ r.1.level

def text (c : Configuration) (time : String) (rs : List OwnRecord) : String :=
  String.join ((rs.filter c.writes).map fun r => (c.handler .screen).line time r.1)

/-- Since the first world a configuration is in force, with its file at a place, and some records
were logged. They were written to the screen and to that file, and nothing else was changed. -/
structure Followed (c : Configuration) (place? : Option Location) (u : World) (rs : List OwnRecord)
    (v : World) : Prop where
  level : v.logging.level = c.level
  handlers : v.logging.handlers = c.handlers place?
  here : v.here = u.here
  engines : v.engines = u.engines
  time : v.time = u.time
  stdout : v.stdout = u.stdout
  stderr : v.stderr = u.stderr ++ c.text u.time rs
  files : u.files.Gains place? (c.text u.time rs).toUTF8 v.files

variable {c : Configuration} {p : Option Location} {u v w : World} {rs : List OwnRecord}

private theorem text_append (c : Configuration) (time : String) (rs ss : List OwnRecord) :
    c.text time (rs ++ ss) = c.text time rs ++ c.text time ss := by
  rw [text, List.filter_append, List.map_append, String.join_append]
  rfl

private theorem text_singleton (c : Configuration) (time : String) (r : OwnRecord) :
    c.text time [r] = if c.writes r then (c.handler .screen).line time r.1 else "" := by
  rw [text, List.filter_singleton]
  split
  · next h => simp [h]
  · next h => simp [h]

theorem Followed.lines (h : c.Followed p u rs v) (r : OwnRecord) :
    (v.logging.use r.1.logger).lines v.time r.1 =
      if c.writes r then (sinks p).map fun s => (s, (c.handler .screen).line u.time r.1)
      else [] := by
  have hown := r.2.isOwn (v.logging.use r.1.logger)
  have hlevel := (v.logging.level_use r.1.logger).trans h.level
  have hpasses : (v.logging.use r.1.logger).passes r.1 = c.writes r := by
    rw [Logging.passes, Logging.threshold, hown, hlevel, writes]
    simp [c.level_ne]
  have hhandlers := (v.logging.handlers_use r.1.logger).trans h.handlers
  rw [Logging.lines, hpasses, hown, hhandlers, h.time]
  by_cases hw : c.writes r = true
  · have hle : c.level ≤ r.1.level := of_decide_eq_true (Bool.and_eq_true_iff.mp hw).2
    have hall : (c.handlers p).filter (fun x => x.level ≤ r.1.level) = c.handlers p := by
      rw [List.filter_eq_self]
      intro x hx
      obtain ⟨s, -, rfl⟩ := List.mem_map.mp hx
      exact decide_eq_true hle
    rw [hw, if_neg (by decide), if_pos rfl, if_pos rfl]
    change ((c.handlers p).filter fun x => x.level ≤ r.1.level).map _ = _
    rw [hall, Configuration.handlers, List.map_map]
    rfl
  · simp [hw]

theorem Followed.record (h : c.Followed p u rs v) (r : OwnRecord) :
    c.Followed p u (rs ++ [r]) (v.record r.1) := by
  have hlines := h.lines r
  have htext : c.text u.time (rs ++ [r]) =
      c.text u.time rs ++ if c.writes r then (c.handler .screen).line u.time r.1 else "" := by
    rw [text_append, text_singleton]
  have hlevel := (v.logging.level_use r.1.logger).trans h.level
  have hhandlers := (v.logging.handlers_use r.1.logger).trans h.handlers
  rw [World.record]
  simp only [hlines]
  by_cases hw : c.writes r = true
  · rw [if_pos hw] at htext ⊢
    generalize (c.handler .screen).line u.time r.1 = line at htext ⊢
    have hstderr : v.stderr ++ line = u.stderr ++ c.text u.time (rs ++ [r]) := by
      rw [htext, h.stderr, String.append_assoc]
    have hbytes : (c.text u.time (rs ++ [r])).toUTF8 =
        (c.text u.time rs).toUTF8 ++ line.toUTF8 := by
      rw [htext]
      exact String.toByteArray_append
    cases p with
    | none => exact ⟨hlevel, hhandlers, h.here, h.engines, h.time, h.stdout, hstderr, h.files⟩
    | some l =>
      have hfiles := h.files.append line.toUTF8
      rw [← hbytes] at hfiles
      exact ⟨hlevel, hhandlers, h.here, h.engines, h.time, h.stdout, hstderr, hfiles⟩
  · rw [if_neg hw, String.append_empty] at htext
    have hstderr := h.stderr
    have hfiles := h.files
    rw [← htext] at hstderr hfiles
    rw [if_neg hw]
    exact ⟨hlevel, hhandlers, h.here, h.engines, h.time, h.stdout, hstderr, hfiles⟩

private theorem Followed.records (h : c.Followed p u rs v) (ss : List OwnRecord) :
    c.Followed p u (rs ++ ss) (ss.foldl (fun v r => v.record r.1) v) := by
  induction ss generalizing rs v with
  | nil => rwa [List.append_nil]
  | cons r ss ih =>
    have hnext := ih (h.record r)
    rwa [List.append_assoc] at hnext

private theorem followed_reset (c : Configuration) (w : World) :
    c.Followed none w [] { w with logging := w.logging.reset c.level c.traced } where
  level := rfl
  handlers := rfl
  here := rfl
  engines := rfl
  time := rfl
  stdout := rfl
  stderr := (String.append_empty).symm
  files := w.files.gains_none _

private theorem followed_addFile (c : Configuration) (w : World) {l : Location}
    (hl : w.files.entry? l ≠ some .directory) :
    c.Followed (some l) w [] { w with
      files := w.files.append l ByteArray.empty
      logging := (w.logging.reset c.level c.traced).addFile c.traced l } where
  level := rfl
  handlers := rfl
  here := rfl
  engines := rfl
  time := rfl
  stdout := rfl
  stderr := (String.append_empty).symm
  files := w.files.gains_append hl ByteArray.empty

/-- Configuring a log never fails, and puts the configuration in force. -/
theorem run_configure (c : Configuration) (w : World) :
    ∃ v, (Work.configure c.level c.file c.traced).run.run w = (.ok (), v) ∧
      c.Followed (c.place? w) w (c.notice w) v := by
  have hreset := c.followed_reset w
  have hmodify : (modify fun w => { w with logging := w.logging.reset c.level c.traced } :
      Work Unit).run.run w = (.ok (), { w with logging := w.logging.reset c.level c.traced }) := rfl
  rw [Work.configure.eq_def, Work.run_bind_ok hmodify]
  split
  · next hfile =>
    have hopening : c.opening w = none := by rw [opening, hfile]
    rw [place?, notice, hopening]
    exact ⟨_, rfl, hreset⟩
  · next hfile =>
    have hopening : c.opening w = none := by
      rw [opening, hfile]
      rfl
    rw [place?, notice, hopening]
    exact ⟨_, rfl, hreset⟩
  · next file hne hfile =>
    have hopening : c.opening w = some (file, w.logPlace file) := by
      rw [opening, hfile]
      split
      · next h => cases h
      · next h => exact absurd (Option.some.inj h) hne
      · next h => rw [Option.some.inj h]
    have hopen := Work.run_openLog (c.file_passed file hfile)
      { w with logging := w.logging.reset c.level c.traced }
    rw [place?, notice, hopening]
    cases hplace : w.logPlace file with
    | error reason =>
      have hlogged : World.logPlace { w with logging := w.logging.reset c.level c.traced } file =
          .error reason := hplace
      rw [hlogged] at hopen
      rw [Work.run_bind_ok hopen]
      exact ⟨_, rfl, hreset.record _⟩
    | ok l =>
      have hlogged : World.logPlace { w with logging := w.logging.reset c.level c.traced } file =
          .ok l := hplace
      rw [hlogged] at hopen
      rw [Work.run_bind_ok hopen]
      exact ⟨_, rfl, (c.followed_addFile w (World.entry?_of_logPlace hplace)).record _⟩

end Configuration

inductive LogStep
  | configure (c : Configuration)
  | record (r : OwnRecord)

namespace LogStep

def work : LogStep → Work Unit
  | .configure c => Work.configure c.level c.file c.traced
  | .record r => Work.record r.1

def run (steps : List LogStep) : Work Unit := steps.forM work

theorem run_cons (s : LogStep) (steps : List LogStep) :
    run (s :: steps) = s.work >>= fun _ => run steps := rfl

theorem run_work (s : LogStep) (w : World) : ∃ v, s.work.run.run w = (.ok (), v) := by
  cases s with
  | configure c =>
    obtain ⟨v, hv, -⟩ := c.run_configure w
    exact ⟨v, hv⟩
  | record r => exact ⟨_, rfl⟩

private theorem run_append {before after : List LogStep} {u w : World}
    (h : (run before).run.run w = (.ok (), u)) :
    (run (before ++ after)).run.run w = (run after).run.run u := by
  induction before generalizing w with
  | nil =>
    obtain ⟨-, rfl⟩ := Prod.mk.inj h
    rfl
  | cons s before ih =>
    obtain ⟨x, hx⟩ := run_work s w
    rw [run_cons, Work.run_bind_ok hx] at h
    rw [List.cons_append, run_cons, Work.run_bind_ok hx]
    exact ih h

private theorem exists_run (steps : List LogStep) (w : World) :
    ∃ v, (run steps).run.run w = (.ok (), v) := by
  induction steps generalizing w with
  | nil => exact ⟨w, rfl⟩
  | cons s steps ih =>
    obtain ⟨x, hx⟩ := run_work s w
    obtain ⟨v, hv⟩ := ih x
    exact ⟨v, (Work.run_bind_ok hx).trans hv⟩

private theorem run_records (rs : List OwnRecord) (w : World) :
    (run (rs.map .record)).run.run w = (.ok (), rs.foldl (fun v r => v.record r.1) w) := by
  induction rs generalizing w with
  | nil => rfl
  | cons r rs ih =>
    have hrecord : (work (.record r)).run.run w = (.ok (), w.record r.1) := rfl
    rw [List.map_cons, run_cons, Work.run_bind_ok hrecord, ih]
    rfl

/-- Whatever was configured and logged before, the last configuration is followed: its handlers are
the screen and its file if this could be opened, and of the records since, its own among them, those
of a positive level that is not below its own are written once to each, and nothing else is. No
step fails. A level may be given by its name in any case. -/
theorem followed_run (before : List LogStep) (c : Configuration) (rs : List OwnRecord)
    (w : World) :
    (∃ u v, (run before).run.run w = (.ok (), u) ∧
      (run (before ++ .configure c :: rs.map .record)).run.run w = (.ok (), v) ∧
      c.Followed (c.place? u) u (c.notice u ++ rs) v) ∧
    ∀ name level, (name, level) ∈ Level.common → ∀ s : String,
      s.toList.map Char.toUpper = name.toList → Level.ofName s = .ok level ∧ level ≠ 0 := by
  obtain ⟨u, hu⟩ := exists_run before w
  obtain ⟨x, hx, hfollowed⟩ := c.run_configure u
  refine ⟨⟨u, _, hu, ?_, hfollowed.records rs⟩, fun name level h s hs => Level.ofName_common h hs⟩
  have hcall : (work (.configure c)).run.run u = (.ok (), x) := hx
  rw [run_append hu, run_cons, Work.run_bind_ok hcall, run_records]

/-- The file of a configuration is left alone once the next one is in force. -/
example :
    let first : Configuration :=
      { level := 30, file := some "a.log", level_ne := by decide, file_passed := by simp; decide }
    let second : Configuration := { level := 40, level_ne := by decide, file_passed := by simp }
    let report (level : Int) : LogStep :=
      .record ⟨{ logger := Logger.library.name, level, message := "m" }, .library⟩
    let v := ((run [.configure first, report 30, .configure second, report 30, report 50]).run.run
      {}).2
    v.stderr = "WARNING: m\nCRITICAL: m\n" ∧
      v.files.entry? ["a.log".toList] = some (.file "WARNING: m\n".toUTF8) := by
  decide +kernel

def everything : Configuration where
  level := -5
  level_ne := by decide
  file_passed _ h := by cases h

def unleveled : OwnRecord :=
  ⟨{ logger := Logger.library.name, level := 0, message := "m" }, .library⟩

/-- A record without a positive level is written nowhere, whatever the level of the log is. -/
theorem unleveled_unwritten :
    everything.level ≤ unleveled.1.level ∧
      ((run [.configure everything, .record unleveled]).run.run {}).2.stderr = "" := by
  decide

end LogStep

end RichText
