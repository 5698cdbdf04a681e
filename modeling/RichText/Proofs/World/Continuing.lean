import RichText.Proofs.Files.Walk
import RichText.Proofs.World.Ends

/-!
What work leaves as it is whatever the log is. Records may be added to a file, and that file may be
any, an output included; so a file that is there stays, and its bytes stay in front of those that
are added to it.
-/

set_option autoImplicit false
set_option relaxedAutoImplicit false

namespace RichText

/-- Every file goes on: bytes may be added at its end, but none are lost. -/
def Files.Continue (f g : Files) : Prop :=
  ∀ l content, f.entry? l = some (.file content) →
    ∃ more, g.entry? l = some (.file (content ++ more))

namespace Files

variable {f g h : Files}

theorem Continue.refl (f : Files) : f.Continue f := fun _ _ hl =>
  ⟨ByteArray.empty, by rw [hl, ByteArray.append_empty]⟩

theorem Continue.trans (hfg : f.Continue g) (hgh : g.Continue h) : f.Continue h := by
  intro l content hl
  obtain ⟨more, hmore⟩ := hfg l content hl
  obtain ⟨rest, hrest⟩ := hgh l _ hmore
  exact ⟨more ++ rest, by rw [hrest, ByteArray.append_assoc]⟩

private theorem continue_append (f : Files) (l : Location) (content : ByteArray) :
    f.Continue (f.append l content) := by
  rw [append]
  split
  · exact .refl f
  · next old hold =>
    have hne : l ≠ [] := ne_nil_of_entry?_ne fun hd => nomatch hold.symm.trans hd
    intro k bytes hk
    rw [entry?_put f hne]
    by_cases hkl : k = l
    · subst hkl
      obtain rfl := Entry.file.inj (Option.some.inj (hold.symm.trans hk))
      exact ⟨content, if_pos rfl⟩
    · rw [if_neg hkl]
      exact Continue.refl f k bytes hk
  · next hnone =>
    have hne : l ≠ [] := ne_nil_of_entry?_ne fun hd => nomatch hnone.symm.trans hd
    intro k bytes hk
    have hkl : k ≠ l := by
      rintro rfl
      rw [hnone] at hk
      cases hk
    rw [entry?_put f hne, if_neg hkl]
    exact Continue.refl f k bytes hk

def SameDirectories (f g : Files) : Prop :=
  ∀ l, f.entry? l = some .directory ↔ g.entry? l = some .directory

private theorem sameDirectories_append (f : Files) (l : Location) (content : ByteArray) :
    f.SameDirectories (f.append l content) := by
  have hput : ∀ bytes, f.entry? l ≠ some .directory →
      f.SameDirectories (f.put l (.file bytes)) := by
    intro bytes hl k
    rw [entry?_put f (ne_nil_of_entry?_ne hl)]
    by_cases hk : k = l
    · subst hk
      simp [hl]
    · rw [if_neg hk]
  rw [append]
  split
  · exact fun _ => .rfl
  · next hold => exact hput _ (by simp [hold])
  · next hnone => exact hput _ (by simp [hnone])

end Files

/-- Only records were written since, and none while no log file is open. -/
structure Files.Logged (logging : Logging) (f g : Files) : Prop where
  files : f.Continue g
  directories : f.SameDirectories g
  quiet : logging.IsScreenOnly → g = f

theorem Files.Logged.congr {logging other : Logging} {f g : Files} (h : f.Logged logging g)
    (hhandlers : logging.handlers = other.handlers) : f.Logged other g where
  files := h.files
  directories := h.directories
  quiet hother := h.quiet fun x hx => hother x (hhandlers ▸ hx)

/-- The work goes on in the same place with the same engines, and no file has lost anything. -/
structure World.Continue (w v : World) : Prop where
  here : v.here = w.here
  engines : v.engines = w.engines
  files : w.files.Continue v.files

namespace World

variable {u v w : World}

theorem Continue.refl (w : World) : w.Continue w := ⟨rfl, rfl, .refl _⟩

theorem Continue.trans (huv : u.Continue v) (hvw : v.Continue w) : u.Continue w where
  here := hvw.here.trans huv.here
  engines := hvw.engines.trans huv.engines
  files := huv.files.trans hvw.files

private theorem continue_writeLine (w : World) (sink : Sink) (line : String) :
    w.Continue (w.writeLine sink line) := by
  cases sink with
  | screen => exact ⟨rfl, rfl, .refl _⟩
  | file l => exact ⟨rfl, rfl, Files.continue_append w.files l _⟩

private theorem record_rel {R : World → World → Prop} (hrefl : ∀ w, R w w)
    (htrans : ∀ {u v w}, R u v → R v w → R u w)
    (hlogging : ∀ (w : World) (logger : String),
      R w { w with logging := w.logging.use logger })
    (hline : ∀ (w : World) (sink : Sink) (line : String), R w (w.writeLine sink line))
    (w : World) (r : Record) : R w (w.record r) := by
  have hlines : ∀ (ls : List (Sink × String)) (v : World),
      R v (ls.foldl (fun w l => w.writeLine l.1 l.2) v) := by
    intro ls
    induction ls with
    | nil => exact hrefl
    | cons x ls ih => exact fun v => htrans (hline v x.1 x.2) (ih _)
  exact htrans (hlogging w r.logger) (hlines _ _)

private theorem continue_record (w : World) (r : Record) : w.Continue (w.record r) :=
  record_rel Continue.refl Continue.trans (fun _ _ => ⟨rfl, rfl, .refl _⟩) continue_writeLine w r

private theorem sameDirectories_record (w : World) (r : Record) :
    w.files.SameDirectories (w.record r).files := by
  refine record_rel (R := fun v u => v.files.SameDirectories u.files) ?_ ?_ ?_ ?_ w r
  · exact fun _ _ => .rfl
  · exact fun huv hvw l => (huv l).trans (hvw l)
  · exact fun _ _ _ => .rfl
  · intro w sink line
    cases sink with
    | screen => exact fun _ => .rfl
    | file l => exact Files.sameDirectories_append w.files l line.toUTF8

theorem logged_record (w : World) (r : Record) :
    w.files.Logged w.logging (w.record r).files where
  files := (continue_record w r).files
  directories := sameDirectories_record w r
  quiet hw := (alike_record hw r).files

private theorem continue_records (rs : List Record) (w : World) :
    w.Continue (rs.foldl World.record w) := by
  induction rs generalizing w with
  | nil => exact .refl w
  | cons r rs ih => exact (continue_record w r).trans (ih _)

/-- The work goes on in the same place with the same engines and handlers, whatever the files are.
-/
structure Beside (v w : World) : Prop where
  here : v.here = w.here
  engines : v.engines = w.engines
  handlers : v.logging.handlers = w.logging.handlers

theorem Beside.refl (w : World) : w.Beside w := ⟨rfl, rfl, rfl⟩

theorem Beside.trans (huv : u.Beside v) (hvw : v.Beside w) : u.Beside w where
  here := huv.here.trans hvw.here
  engines := huv.engines.trans hvw.engines
  handlers := huv.handlers.trans hvw.handlers

theorem Alike.beside (h : v.Alike w) : v.Beside w := ⟨h.here, h.engines, h.handlers⟩

theorem beside_record (w : World) (r : Record) : (w.record r).Beside w := by
  refine record_rel (R := fun v u => u.Beside v) Beside.refl ?_ ?_ ?_ w r
  · exact fun huv hvw => hvw.trans huv
  · exact fun w logger => ⟨rfl, rfl, w.logging.handlers_use logger⟩
  · intro w sink line
    cases sink with
    | screen => exact ⟨rfl, rfl, rfl⟩
    | file l => exact ⟨rfl, rfl, rfl⟩

end World

namespace Work

variable {α β : Type} {m : Work α} {f : α → Work β} {v w : World} {a : α} {b : β}

def Stays (m : Work α) : Prop := ∀ w, (m.run.run w).2.Beside w

theorem stays_pure (a : α) : Stays (pure a) := World.Beside.refl

theorem stays_log (logger : Logger) (level : Int) (s : String) : Stays (log logger level s) :=
  fun w => World.beside_record w _

theorem stays_ofExcept (x : Except Problem α) : Stays (ofExcept x) := by
  intro w
  rw [run_ofExcept]
  exact .refl w

theorem Stays.of_ends (h : ∀ w, ∃ r files, Ends m w r files) : Stays m := by
  intro w
  obtain ⟨r, files, -, halike⟩ := h w
  exact halike.beside.trans ⟨rfl, rfl, rfl⟩

theorem Stays.bind (hm : Stays m) (hf : ∀ a, Stays (f a)) : Stays (m >>= f) := by
  intro w
  have hw := hm w
  cases hr : m.run.run w with
  | mk r v =>
    rw [hr] at hw
    cases r with
    | error p =>
      rw [run_bind_error hr]
      exact hw
    | ok a =>
      rw [run_bind_ok hr]
      exact (hf a v).trans hw

theorem Stays.forM {κ : Type} {g : κ → Work Unit} (h : ∀ k, Stays (g k)) (ks : List κ) :
    Stays (ks.forM g) := by
  induction ks with
  | nil => exact stays_pure ()
  | cons k ks ih =>
    rw [List.forM_eq_forM, List.forM_cons]
    exact (h k).bind fun _ => ih

theorem run_log (logger : Logger) (level : Int) (message : String) (w : World) :
    ∃ v, (log logger level message).run.run w = (.ok (), v) ∧ w.Continue v :=
  ⟨_, rfl, World.continue_record w _⟩

theorem run_forM_log_eq {κ : Type} (logger : Logger) (level : Int) (message : κ → String)
    (ks : List κ) (w : World) :
    (ks.forM fun k => log logger level (message k)).run.run w =
      (.ok (), (ks.map fun k => { logger := logger.name, level, message := message k }).foldl
        World.record w) := by
  induction ks generalizing w with
  | nil => rfl
  | cons k ks ih =>
    have hlog : (log logger level (message k)).run.run w =
        (.ok (), w.record { logger := logger.name, level, message := message k }) := rfl
    rw [List.forM_eq_forM, List.forM_cons, run_bind_ok hlog]
    exact ih _

theorem run_forM_log {κ : Type} (logger : Logger) (level : Int) (message : κ → String)
    (ks : List κ) (w : World) :
    ∃ v, (ks.forM fun k => log logger level (message k)).run.run w = (.ok (), v) ∧
      w.Continue v :=
  ⟨_, run_forM_log_eq logger level message ks w, World.continue_records _ w⟩

theorem run_bind_eq_ok (h : (m >>= f).run.run w = (.ok b, v)) :
    ∃ a u, m.run.run w = (.ok a, u) ∧ (f a).run.run u = (.ok b, v) := by
  cases hm : m.run.run w with
  | mk r u =>
    cases r with
    | error p =>
      rw [run_bind_error hm] at h
      cases h
    | ok a => exact ⟨a, u, rfl, (run_bind_ok hm).symm.trans h⟩

end Work

end RichText
