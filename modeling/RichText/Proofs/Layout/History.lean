import RichText.Proofs.Layout.Settings

/-!
Histories of the layout in use. Layouts are made, the one in use is updated, and its fields are
tried to be set. A step that fails changes nothing, so the layout in use is at any time the one that
is made at once with the settings of all steps that did not fail, the later over the earlier.
-/

set_option autoImplicit false
set_option relaxedAutoImplicit false

namespace RichText

namespace Layout

inductive Step
  | make (family : Family) (settings : Settings)
  | update (settings : Settings)
  | assign (name : String) (value : Int)
  deriving DecidableEq, Repr

namespace Step

def result (current : Option Layout) : Step → Except Error Layout
  | .make family settings => Layout.make family settings
  | .update settings => updateCurrent current settings
  | .assign name value => assignCurrent current name value

def work (s : Step) : ExceptT Error (StateM (Option Layout)) Unit := do
  let l ← MonadExcept.ofExcept (s.result (← getThe (Option Layout)))
  set (some l)

/-- The layout in use after some steps, each tried whatever came of those before. -/
def after (current : Option Layout) (steps : List Step) : Option Layout :=
  steps.foldl (fun c s => (s.work.run.run c).2) current

def accepted (current : Option Layout) : List Step → List Step
  | [] => []
  | s :: rest =>
    match s.work.run.run current with
    | (.ok _, next) => s :: accepted next rest
    | (.error _, next) => accepted next rest

/-- What is told of a layout by its family and settings, when a step is added to the story. -/
def tell (told : Option (Family × Settings)) : Step → Option (Family × Settings)
  | .make family settings => some (family, settings)
  | .update settings => told.map fun t => (t.1, t.2.merge settings)
  | .assign _ _ => told

/-- The family that the last step to make a layout names, and the settings of that step with those
of the updates behind it over them. -/
def told (steps : List Step) : Option (Family × Settings) := steps.foldl tell none

variable {c : Option Layout} {s : Step} {l : Layout} {e : Error}

theorem run_work (s : Step) (c : Option Layout) : s.work.run.run c =
    match s.result c with
    | .ok l => (.ok (), some l)
    | .error e => (.error e, c) := by
  have hwork : s.work.run.run c =
      (MonadExcept.ofExcept (s.result c) >>= fun l => set (some l) :
        ExceptT Error (StateM (Option Layout)) Unit).run.run c := rfl
  rw [hwork]
  cases s.result c with
  | ok l => rfl
  | error e => rfl

private theorem after_cons (c : Option Layout) (s : Step) (rest : List Step) :
    after c (s :: rest) = after (s.work.run.run c).2 rest := rfl

private theorem result_assign (c : Option Layout) (name : String) (value : Int) :
    ∃ e, (assign name value).result c = .error e := by
  cases c with
  | some l => exact ⟨_, rfl⟩
  | none =>
    rw [result, assignCurrent]
    split
    · exact ⟨_, rfl⟩
    · split
      · exact ⟨_, rfl⟩
      · exact ⟨_, rfl⟩

private theorem eq_of_run_error {d : Option Layout} (h : s.work.run.run c = (.error e, d)) :
    d = c := by
  rw [run_work] at h
  cases hresult : s.result c with
  | ok l =>
    rw [hresult] at h
    cases h
  | error f =>
    rw [hresult] at h
    exact (Prod.mk.inj h).2.symm

/-- Steps that fail might as well not have been tried. -/
theorem after_accepted (c : Option Layout) (steps : List Step) :
    after c (accepted c steps) = after c steps := by
  induction steps generalizing c with
  | nil => rfl
  | cons s rest ih =>
    rw [after_cons, accepted]
    split
    · next d hrun => rw [after_cons, hrun, ih]
    · next e d hrun =>
      obtain rfl := eq_of_run_error hrun
      rw [hrun, ih]

/-- A layout that is made at once as it is told. -/
def AsTold (current : Option Layout) (told : Option (Family × Settings)) : Prop :=
  Option.Rel (fun l t => Layout.make t.1 t.2 = .ok l) current told

/-- A step that does not fail makes the layout that is told with it. -/
theorem AsTold.tell {t : Option (Family × Settings)} (h : AsTold c t) (hs : s.result c = .ok l) :
    AsTold (some l) (s.tell t) := by
  cases s with
  | make family settings => exact .some hs
  | assign name value =>
    obtain ⟨e, he⟩ := result_assign c name value
    rw [he] at hs
    cases hs
  | update settings =>
    cases h with
    | none =>
      rw [result, updateCurrent] at hs
      split at hs
      · cases hs
      · cases hs
    | @some k t hk =>
      have hmade : Takes { family := t.1 } t.2 k := (answers_make t.1 t.2).ok_iff.mp hk
      have hupdated : k.Takes settings l := (answers_update k settings).ok_iff.mp hs
      exact .some ((answers_make _ _).ok_iff.mpr (hmade.merge hupdated))

private theorem asTold_after {t : Option (Family × Settings)} (h : AsTold c t) (steps : List Step) :
    AsTold (after c steps) ((accepted c steps).foldl Step.tell t) := by
  induction steps generalizing c t with
  | nil => exact h
  | cons s rest ih =>
    rw [after_cons, accepted, run_work]
    cases hresult : s.result c with
    | ok l => exact ih (h.tell hresult)
    | error e => exact ih h

end Step

/-- The layout in use is valid after any steps. It is the one made at once with the settings of the
steps that did not fail since one was made, the later over the earlier; so its widths are what was
last stated of them, and none is negative. A step that fails changes nothing, as if it had not been
tried, and setting a field always fails. An update that succeeds keeps the family and each field
that it does not name; two in a row are one with the settings of the second over those of the first;
and an update fails exactly if it names something else than a field or states a negative width. -/
theorem layouts_valid (steps : List Step) :
    (∀ l, Step.after none steps = some l →
      ∃ s : Settings, Step.told (Step.accepted none steps) = some (l.family, s) ∧
        make l.family s = .ok l ∧ ∀ f, 0 ≤ (l.get f : Int) ∧
          (l.get f : Int) = (s.value? f.name).getD (get { family := l.family } f)) ∧
    (∀ (s : Step) e current, s.work.run.run (Step.after none steps) = (.error e, current) →
      current = Step.after none steps) ∧
    Step.after none (Step.accepted none steps) = Step.after none steps ∧
    (∀ current name value, ∃ e, (Step.assign name value).result current = .error e) ∧
    (∀ l (s : Settings) m, update l s = .ok m → m.family = l.family ∧ ∀ f,
      (f.name ∉ s.names → m.get f = l.get f) ∧
        ∀ v, s.value? f.name = some v → (m.get f : Int) = v) ∧
    (∀ l (s t : Settings) m n, update l s = .ok m → update m t = .ok n →
      update l (s.merge t) = .ok n) ∧
    (∀ (s t : Settings) name, (s.merge t).value? name = (t.value? name).or (s.value? name)) ∧
    ∀ l (s : Settings), (∀ e, update l s = .error e → s.Refused e) ∧
      ((∃ e, update l s = .error e) ↔
        (∃ n ∈ s.names, ¬IsField n) ∨
          ∃ (f : Field) (v : Int), s.value? f.name = some v ∧ v < 0) := by
  refine ⟨?_, ?_, Step.after_accepted none steps, Step.result_assign, ?_, ?_,
    Settings.value?_merge, ?_⟩
  · intro l hl
    have htold : Step.AsTold (some l) (Step.told (Step.accepted none steps)) :=
      hl ▸ Step.asTold_after .none steps
    cases hstory : Step.told (Step.accepted none steps) with
    | none =>
      rw [hstory] at htold
      cases htold
    | some t =>
      rw [hstory] at htold
      obtain ⟨family, s⟩ := t
      cases htold with
      | some hmake =>
        have htakes : Takes { family } s l := (answers_make family s).ok_iff.mp hmake
        have hfamily : l.family = family := htakes.family_eq
        subst hfamily
        exact ⟨s, rfl, hmake, fun f => ⟨Int.natCast_nonneg _, htakes.get_eq f⟩⟩
  · intro s e current h
    exact Step.eq_of_run_error h
  · intro l s m h
    have htakes : l.Takes s m := (answers_update l s).ok_iff.mp h
    refine ⟨htakes.family_eq, ?_⟩
    intro f
    refine ⟨htakes.get_eq_of_not_mem, ?_⟩
    intro v hv
    rw [htakes.get_eq f, hv]
    rfl
  · intro l s t m n hm hn
    have hs : l.Takes s m := (answers_update l s).ok_iff.mp hm
    have ht : m.Takes t n := (answers_update m t).ok_iff.mp hn
    exact (answers_update l (s.merge t)).ok_iff.mpr (hs.merge ht)
  · intro l s
    refine ⟨?_, ?_⟩
    · intro e h
      exact (answers_update l s).refused_of_error h
    · rw [(answers_update l s).error_iff, s.exists_refused_iff]

theorem layouts_valid_sample :
    let steps : List Step := [.make .markdown [("indent_width", 4)], .update [("line_width", 72)],
      .update [("indent_width", 8), ("line_width", -1)], .assign "line_width" 9,
      .update [("line_width", 80)]]
    let l : Layout := { family := .markdown, indentWidth := 4, lineWidth := 80 }
    let m : Layout := { l with lineWidth := 0 }
    let n : Layout := { l with indentWidth := 0, lineWidth := 90 }
    Step.after none steps = some l ∧
      (∃ s : Settings, Step.told (Step.accepted none steps) = some (.markdown, s) ∧
        make .markdown s = .ok l ∧ (l.get .lineWidth : Int) = (s.value? "line_width").getD 0) ∧
      (∀ e current, (Step.update [("wrap", 1)]).work.run.run (some l) = (.error e, current) →
        current = some l) ∧
      update l [("line_width", 0)] = .ok m ∧ m.get .indentWidth = 4 ∧ m.get .lineWidth = 0 ∧
      update m [("line_width", 90), ("indent_width", 0)] = .ok n ∧
      update l [("line_width", 90), ("indent_width", 0)] = .ok n ∧
      ∃ e, update n [("indent_width", -2)] = .error e := by
  intro steps l m n
  have hafter : Step.after none steps = some l := by decide
  have hm : update l [("line_width", 0)] = .ok m := rfl
  have hn : update m [("line_width", 90), ("indent_width", 0)] = .ok n := rfl
  obtain ⟨hmade, hfailed, -, -, hkept, htwice, -, hrefused⟩ := layouts_valid steps
  obtain ⟨s, htold, hmake, hwidths⟩ := hmade l hafter
  have hindent := (hkept l _ m hm).2 .indentWidth
  have hline := (hkept l _ m hm).2 .lineWidth
  refine ⟨hafter, ⟨s, htold, hmake, (hwidths .lineWidth).2⟩, ?_, hm, hindent.1 (by decide), ?_, hn,
    htwice l _ _ m n hm hn, ?_⟩
  · intro e current h
    rw [← hafter] at h ⊢
    exact hfailed _ e current h
  · exact Int.ofNat_inj.mp (hline.2 0 rfl)
  · exact ((hrefused n _).2).mpr (Or.inr ⟨.indentWidth, -2, rfl, by decide⟩)

end Layout

end RichText
