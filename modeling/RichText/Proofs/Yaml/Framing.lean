import RichText.Yaml.Fault

/-!
Where the faults of a reading come from. A frame says which states may follow a state and which
faults a state accounts for; a fault that comes up later is one that the state before accounts for
already. Work holds to a frame as soon as its steps do.
-/

set_option autoImplicit false
set_option relaxedAutoImplicit false

namespace RichText.Yaml

theorem eq_error_of_bind_ok {α β : Type} {r : Except Fault α} {g : α → β} {e : Fault}
    (h : (r >>= fun a => .ok (g a)) = .error e) : r = .error e := by
  cases r with
  | error d => exact congrArg Except.error (Except.error.inj h)
  | ok a => cases h

/-- Which states may follow a state, and which faults a state accounts for. -/
structure Frame (σ : Type) where
  follows : σ → σ → Prop
  faults : σ → Fault → Prop
  refl (s : σ) : follows s s
  trans {s t u : σ} : follows s t → follows t u → follows s u
  back {s t : σ} {e : Fault} : follows s t → faults t e → faults s e
  malformed (s : σ) : faults s .malformed

namespace Frame

variable {σ α β : Type} (F : Frame σ) {m : StateT σ (Except Fault) α}
  {f : α → StateT σ (Except Fault) β}

/-- The work leads to a state that may follow, or fails with a fault that the state accounts for. -/
def HoldsAt (s : σ) (m : StateT σ (Except Fault) α) : Prop :=
  (∀ a t, m.run s = .ok (a, t) → F.follows s t) ∧ ∀ e, m.run s = .error e → F.faults s e

def Holds (m : StateT σ (Except Fault) α) : Prop := ∀ s, F.HoldsAt s m

variable {F}

theorem HoldsAt.pure (s : σ) (a : α) : F.HoldsAt s (Pure.pure a) := by
  refine ⟨?_, nofun⟩
  intro b t h
  obtain ⟨-, rfl⟩ := Prod.mk.inj (Except.ok.inj h)
  exact F.refl s

theorem HoldsAt.throw {s : σ} {e : Fault} (h : F.faults s e) :
    F.HoldsAt s (MonadExcept.throw e : StateT σ (Except Fault) α) := by
  refine ⟨nofun, ?_⟩
  intro d hd
  obtain rfl : e = d := Except.error.inj hd
  exact h

theorem HoldsAt.set {s t : σ} (h : F.follows s t) :
    F.HoldsAt s (MonadStateOf.set t : StateT σ (Except Fault) Unit) := by
  refine ⟨?_, nofun⟩
  intro _ u hu
  obtain ⟨-, rfl⟩ := Prod.mk.inj (Except.ok.inj hu)
  exact h

theorem HoldsAt.bind {s : σ} (hm : F.HoldsAt s m)
    (hf : ∀ a t, F.follows s t → F.HoldsAt t (f a)) : F.HoldsAt s (m >>= f) := by
  have hrun : (m >>= f).run s = (m.run s).bind fun p => (f p.1).run p.2 := rfl
  cases hs : m.run s with
  | error e =>
    rw [hs] at hrun
    refine ⟨fun b u hb => ?_, fun d hd => ?_⟩
    · rw [hrun] at hb
      cases hb
    · rw [hrun] at hd
      obtain rfl : e = d := Except.error.inj hd
      exact hm.2 e hs
  | ok p =>
    obtain ⟨a, t⟩ := p
    rw [hs] at hrun
    have hst := hm.1 a t hs
    obtain ⟨hok, herror⟩ := hf a t hst
    refine ⟨fun b u hb => ?_, fun d hd => ?_⟩
    · exact F.trans hst (hok b u (hrun.symm.trans hb))
    · exact F.back hst (herror d (hrun.symm.trans hd))

theorem HoldsAt.get_bind {s : σ} {f : σ → StateT σ (Except Fault) β} (h : F.HoldsAt s (f s)) :
    F.HoldsAt s (MonadState.get >>= f) := h

theorem Holds.pure (a : α) : F.Holds (Pure.pure a : StateT σ (Except Fault) α) :=
  fun s => .pure s a

theorem Holds.malformed : F.Holds (MonadExcept.throw .malformed : StateT σ (Except Fault) α) :=
  fun s => .throw (F.malformed s)

theorem Holds.update {g : σ → σ} (h : ∀ s, F.follows s (g s)) :
    F.Holds (modify g : StateT σ (Except Fault) Unit) := fun s => .set (h s)

theorem Holds.bind (hm : F.Holds m) (hf : ∀ a, F.Holds (f a)) : F.Holds (m >>= f) :=
  fun s => (hm s).bind fun a t _ => hf a t

theorem Holds.get_bind {f : σ → StateT σ (Except Fault) β} (h : ∀ s, F.HoldsAt s (f s)) :
    F.Holds (MonadState.get >>= f) := h

theorem Holds.mapM {g : α → StateT σ (Except Fault) β} (h : ∀ a, F.Holds (g a)) (as : List α) :
    F.Holds (as.mapM g) := by
  induction as with
  | nil => exact .pure []
  | cons a as ih =>
    rw [List.mapM_cons]
    exact (h a).bind fun b => ih.bind fun bs => .pure (b :: bs)

theorem Holds.foldlM {g : β → α → StateT σ (Except Fault) β} (h : ∀ b a, F.Holds (g b a))
    (as : List α) (b : β) : F.Holds (as.foldlM g b) := by
  induction as generalizing b with
  | nil => exact .pure b
  | cons a as ih =>
    rw [List.foldlM_cons]
    exact (h b a).bind fun c => ih c

end Frame

end RichText.Yaml
