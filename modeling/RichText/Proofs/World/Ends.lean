import RichText.World

/-!
How work on a world ends. While no log file is open, records and messages reach nothing but the
screen; so what counts of a piece of work is its result and the files it leaves, and both are found
step by step along the work.
-/

set_option autoImplicit false
set_option relaxedAutoImplicit false

namespace RichText

/-- Every handler writes to the screen; no log file is open. -/
def Logging.IsScreenOnly (l : Logging) : Prop := ∀ h ∈ l.handlers, h.sink = .screen

private theorem Logging.sink_of_mem_lines {l : Logging} (hl : l.IsScreenOnly) {time : String}
    {r : Record} {x : Sink × String} (hx : x ∈ l.lines time r) : x.1 = .screen := by
  rw [Logging.lines] at hx
  split at hx
  · cases hx
  · split at hx
    · split at hx
      · rw [List.mem_singleton.mp hx]
      · cases hx
    · next hs _ =>
      obtain ⟨h, hh, rfl⟩ := List.mem_map.mp hx
      have hm := (List.mem_filter.mp hh).1
      split at hm
      · exact hl h hm
      · cases hm

theorem Logging.handlers_use (l : Logging) (logger : String) :
    (l.use logger).handlers = l.handlers := by
  rw [Logging.use]
  split
  · rfl
  · rfl

/-- Two worlds in which work finds the same files and programs. -/
structure World.Agree (v w : World) : Prop where
  files : v.files = w.files
  here : v.here = w.here
  engines : v.engines = w.engines

/-- Two worlds that differ in nothing but what was logged and shown so far. -/
structure World.Alike (v w : World) : Prop extends World.Agree v w where
  handlers : v.logging.handlers = w.logging.handlers

namespace World

variable {u v w : World} {files : Files}

theorem Agree.refl (w : World) : w.Agree w := ⟨rfl, rfl, rfl⟩

theorem Agree.trans (huv : u.Agree v) (hvw : v.Agree w) : u.Agree w where
  files := huv.files.trans hvw.files
  here := huv.here.trans hvw.here
  engines := huv.engines.trans hvw.engines

theorem Agree.withFiles (h : v.Agree w) (files : Files) :
    { v with files }.Agree { w with files } := ⟨rfl, h.here, h.engines⟩

theorem Alike.refl (w : World) : w.Alike w := ⟨.refl w, rfl⟩

theorem Alike.trans (huv : u.Alike v) (hvw : v.Alike w) : u.Alike w where
  toAgree := huv.toAgree.trans hvw.toAgree
  handlers := huv.handlers.trans hvw.handlers

theorem Alike.withFiles (h : v.Alike w) (files : Files) :
    { v with files }.Alike { w with files } := ⟨h.toAgree.withFiles files, h.handlers⟩

theorem Alike.isScreenOnly (h : v.Alike w) (hw : w.logging.IsScreenOnly) :
    v.logging.IsScreenOnly := by
  intro x hx
  rw [h.handlers] at hx
  exact hw x hx

theorem alike_showLine (w : World) (s : String) : (w.showLine s).Alike w :=
  ⟨⟨rfl, rfl, rfl⟩, rfl⟩

private theorem alike_writeLines
    {ls : List (Sink × String)} (hls : ∀ x ∈ ls, x.1 = .screen) (w : World) :
    (ls.foldl (fun w l => w.writeLine l.1 l.2) w).Alike w := by
  induction ls generalizing w with
  | nil => exact .refl w
  | cons x ls ih =>
    have hx : w.writeLine x.1 x.2 = w.showLine x.2 := by
      rw [hls x List.mem_cons_self]
      rfl
    rw [List.foldl_cons, hx]
    exact (ih (fun y hy => hls y (List.mem_cons_of_mem x hy)) _).trans (alike_showLine w x.2)

theorem alike_record (hw : w.logging.IsScreenOnly) (r : Record) : (w.record r).Alike w := by
  have hused : World.Alike { w with logging := w.logging.use r.logger } w :=
    ⟨⟨rfl, rfl, rfl⟩, w.logging.handlers_use r.logger⟩
  refine Alike.trans (alike_writeLines ?_ _) hused
  intro x hx
  exact Logging.sink_of_mem_lines (hused.isScreenOnly hw) hx

end World

namespace Work

variable {α β : Type} {m : Work α} {f : α → Work β} {u v w : World} {a : α} {p : Problem}
  {r : Except Problem β} {files files' : Files}

theorem run_bind_ok (h : m.run.run w = (.ok a, v)) : (m >>= f).run.run w = (f a).run.run v := by
  change StateT.bind m (ExceptT.bindCont f) w = _
  change m w = _ at h
  simp only [StateT.bind, h]
  rfl

theorem run_bind_error (h : m.run.run w = (.error p, v)) :
    (m >>= f).run.run w = (.error p, v) := by
  change StateT.bind m (ExceptT.bindCont f) w = _
  change m w = _ at h
  simp only [StateT.bind, h]
  rfl

theorem run_tryCatch_ok (h : m.run.run w = (.ok a, v)) (g : Problem → Work α) :
    (tryCatch m g).run.run w = (.ok a, v) := by
  change (ExceptT.tryCatch m g).run.run w = _
  change m w = _ at h
  simp only [ExceptT.tryCatch, ExceptT.run, ExceptT.mk, StateT.run, bind, StateT.bind, h]
  rfl

theorem run_tryCatch_error (h : m.run.run w = (.error p, v)) (g : Problem → Work α) :
    (tryCatch m g).run.run w = (g p).run.run v := by
  change (ExceptT.tryCatch m g).run.run w = _
  change m w = _ at h
  simp only [ExceptT.tryCatch, ExceptT.run, ExceptT.mk, StateT.run, bind, StateT.bind, h]

theorem run_get (w : World) : (get : Work World).run.run w = (.ok w, w) := rfl

theorem run_set (v w : World) : (set v : Work Unit).run.run w = (.ok (), v) := rfl

theorem run_ofExcept (x : Except Problem α) (w : World) : (ofExcept x).run.run w = (x, w) := by
  cases x <;> rfl

theorem run_ofFailure_ok (a : α) (w : World) : (ofFailure (.ok a)).run.run w = (.ok a, w) := rfl

theorem run_status (s : String) (w : World) : (status s).run.run w =
    (.ok (), w.showLine (Text.wrapped World.screenWidth s)) := rfl

def outcome (m : Work α) (w : World) : Except Problem α × Files :=
  ((m.run.run w).1, (m.run.run w).2.files)

theorem eq_ok_of_toOption {x : Except Problem α} (h : x.toOption = some a) : x = .ok a := by
  cases x with
  | error p => cases h
  | ok b => exact congrArg Except.ok (Option.some.inj h)

theorem exists_run_of_toOption (h : (outcome m w).1.toOption = some a) :
    ∃ v, m.run.run w = (.ok a, v) :=
  ⟨(m.run.run w).2, Prod.ext (eq_ok_of_toOption h) rfl⟩

/-- The work ends with a result and leaves some files; beside these the world differs only in what
is logged and shown. -/
def Ends (m : Work α) (w : World) (r : Except Problem α) (files : Files) : Prop :=
  (m.run.run w).1 = r ∧ World.Alike (m.run.run w).2 { w with files }

private theorem Ends.of_run {r : Except Problem α} (h : m.run.run w = (r, v))
    (hv : v.Alike { w with files }) : Ends m w r files := by
  rw [Ends, h]
  exact ⟨rfl, hv⟩

theorem Ends.outcome_eq {r : Except Problem α} (h : Ends m w r files) : outcome m w = (r, files) :=
  Prod.ext h.1 h.2.files

theorem Ends.leaving {r : Except Problem α} (h : Ends m w r files) (he : files = files') :
    Ends m w r files' := he ▸ h

theorem ends_pure (a : α) (w : World) : Ends (pure a) w (.ok a) w.files := ⟨rfl, .refl w⟩

theorem ends_throw (p : Problem) (w : World) : Ends (throw p : Work α) w (.error p) w.files :=
  ⟨rfl, .refl w⟩

theorem ends_fail (f : Failure) (w : World) :
    Ends (fail f : Work α) w (.error (.failure f)) w.files := ⟨rfl, .refl w⟩

theorem ends_ofExcept (x : Except Problem α) (w : World) : Ends (ofExcept x) w x w.files :=
  .of_run (run_ofExcept x w) (.refl w)

theorem ends_ofFailure_ok (a : α) (w : World) :
    Ends (ofFailure (.ok a)) w (.ok a) w.files := ⟨rfl, .refl w⟩

theorem ends_set (w : World) (files : Files) :
    Ends (set { w with files } : Work Unit) w (.ok ()) files := ⟨rfl, .refl _⟩

theorem ends_log (hw : w.logging.IsScreenOnly) (logger : Logger) (level : Int) (s : String) :
    Ends (log logger level s) w (.ok ()) w.files := ⟨rfl, World.alike_record hw _⟩

theorem ends_status (w : World) (s : String) : Ends (status s) w (.ok ()) w.files :=
  ⟨rfl, World.alike_showLine w _⟩

theorem Ends.bind (hm : Ends m w (.ok a) files)
    (hf : ∀ v : World, v.Alike { w with files } → Ends (f a) v r files') :
    Ends (m >>= f) w r files' := by
  obtain ⟨hok, hv⟩ := hm
  have hrun : (m >>= f).run.run w = (f a).run.run (m.run.run w).2 :=
    run_bind_ok (Prod.ext hok rfl)
  obtain ⟨hr, hu⟩ := hf _ hv
  exact .of_run (hrun.trans (Prod.ext hr rfl)) (hu.trans (hv.withFiles files'))

theorem Ends.bind_error (hm : Ends m w (.error p) files) : Ends (m >>= f) w (.error p) files := by
  obtain ⟨herror, hv⟩ := hm
  exact .of_run (run_bind_error (Prod.ext herror rfl)) hv

theorem Ends.get_bind {g : World → Work β} (h : Ends (g w) w r files) :
    Ends (get >>= g) w r files := h

theorem ends_forM_log {κ : Type} (hw : w.logging.IsScreenOnly) (logger : Logger) (level : Int)
    (message : κ → String) (ks : List κ) :
    Ends (ks.forM fun k => log logger level (message k)) w (.ok ()) w.files := by
  induction ks generalizing w with
  | nil => exact ends_pure () w
  | cons k ks ih =>
    rw [List.forM_eq_forM, List.forM_cons]
    refine (ends_log hw logger level (message k)).bind fun v hv => ?_
    exact (ih (hv.isScreenOnly hw)).leaving hv.files

end Work

end RichText
