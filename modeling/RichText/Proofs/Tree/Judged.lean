import RichText.Proofs.Tree.Findings

/-!
Every load is decided by findings: it returns what the value describes apart from them, unless one
of them ends it. In front of the end a lenient load turns strays into warnings.
-/

set_option autoImplicit false
set_option relaxedAutoImplicit false

namespace RichText

namespace Loading

variable {α β : Type}

private theorem judged_nil (s : Strictness) (a : α) : judged s a [] = ok a := rfl

theorem judged_strict_cons {x : Finding} (a : α) (fs : List Finding) :
    judged .strict a (x :: fs) = fail x.error := by
  cases x <;> rfl

/-- A lenient load warns of the strays in front of the first defect, and otherwise does what a
strict load does without strays. -/
theorem judged_lenient (a : α) (fs : List Finding) :
    judged .lenient a fs =
      ⟨(fs.takeWhile Finding.isStray).filterMap Finding.warning?,
        (judged .strict a (fs.filter Finding.isDefect)).outcome⟩ := by
  induction fs with
  | nil => rfl
  | cons x fs ih =>
    cases x with
    | defect e => rfl
    | stray w =>
      rw [judged, ih]
      rfl

theorem judged_warnings {a b : α} {fs : List Finding}
    (h : (judged .lenient a fs).outcome = .ok b) :
    (judged .lenient a fs).warnings = fs.filterMap Finding.warning? := by
  induction fs with
  | nil => rfl
  | cons x fs ih =>
    cases x with
    | defect e => cases h
    | stray w => exact congrArg (w :: ·) (ih h)

private theorem judged_cons_bind_ne_ok {s : Strictness} {x : Finding} (a : α) (fs : List Finding)
    (f : α → Loading β) {b : β} : judged s a (x :: fs) >>= f ≠ ok b := by
  cases x with
  | defect e => nofun
  | stray w =>
    cases s with
    | strict => nofun
    | lenient =>
      intro h
      have hwarnings : (judged .lenient a (.stray w :: fs) >>= f).warnings = [] := by
        rw [h]
        rfl
      simp only [judged, bind_def, andThen] at hwarnings
      split at hwarnings <;> cases hwarnings

private theorem judged_reject (s : Strictness) (w : LoadWarning) :
    judged s (none : Option α) [.stray w] = s.reject w.error w := by
  cases s <;> rfl

private theorem judged_bind {f : α → Loading β} {a : α} {b : β} {s : Strictness} {gs : List Finding}
    (fs : List Finding) (h : f a = judged s b gs) :
    judged s a fs >>= f = judged s b (fs ++ gs) := by
  -- only a stray in a lenient load goes on to the findings behind it
  induction fs with
  | nil => exact h
  | cons x fs ih =>
    cases x with
    | defect e => rfl
    | stray w =>
      cases s with
      | strict => rfl
      | lenient =>
        simp only [judged, List.cons_append, ← ih]
        simp only [bind_def, andThen]
        cases (judged .lenient a fs).outcome <;> rfl

private theorem judged_bind_ok (s : Strictness) (a : α) (fs : List Finding) (f : α → β) :
    judged s a fs >>= (fun x => ok (f x)) = judged s (f a) fs := by
  have h : judged s a fs >>= (fun x => ok (f x)) = judged s (f a) (fs ++ []) :=
    judged_bind fs rfl
  rw [h, List.append_nil]

end Loading

open Loading (judged judged_bind judged_bind_ok judged_cons_bind_ne_ok judged_reject)

private theorem loadAttributes_eq_judged (s : Strictness) (entries : List (Scalar × Value)) :
    loadAttributes entries = judged s (attributes? entries) (attributesFindings entries) := by
  unfold loadAttributes attributes? attributesFindings
  cases Value.field? "attrs" entries with
  | none => rfl
  | some v =>
    cases v with
    | scalar x => cases x <;> rfl
    | _ => rfl

namespace Mark

private theorem loadLinkField_eq_judged (s : Strictness) (field : LinkField)
    (attributes : List (Scalar × Value)) :
    loadLinkField field attributes =
      judged s (field? field attributes) (fieldFindings field attributes) := by
  unfold loadLinkField field? fieldFindings
  cases Value.field? field.name attributes with
  | none => rfl
  | some v =>
    cases v with
    | scalar x => cases x <;> rfl
    | _ => rfl

private theorem loadLink_eq_judged (s : Strictness) (entries : List (Scalar × Value)) :
    loadLink entries =
      judged s (.link ((attributes? entries).map linkAttributes)) (linkFindings entries) := by
  rw [loadLink, loadAttributes_eq_judged s, linkFindings]
  refine judged_bind _ ?_
  cases attributes? entries with
  | none => rfl
  | some attributes =>
    simp only [loadLinkField_eq_judged s, List.flatMap_cons, List.flatMap_nil]
    refine judged_bind _ (judged_bind _ ?_)
    rw [List.append_nil]
    exact judged_bind_ok _ _ _ _

private theorem loadKind_eq_judged (s : Strictness) (entries : List (Scalar × Value)) (k : Kind) :
    loadKind entries k = judged s (ofKind entries k) (kindFindings entries k) := by
  cases k with
  | bold => rfl
  | italic => rfl
  | link => exact loadLink_eq_judged s entries

private theorem load_eq_judged (s : Strictness) :
    (v : Value) → load s v = judged s (ofValue? v) (findings v)
  | .mapping entries => by
    rw [load_mapping, ofValue?, findings]
    cases statedKind? (statedType entries) with
    | none => exact (judged_reject s (.unknownMark _)).symm
    | some k =>
      simp only [loadKind_eq_judged s]
      exact judged_bind_ok _ _ _ _
  | .again _ unrolled => by
    rw [load, ofValue?, findings]
    exact load_eq_judged s (unrolled ())
  | .scalar _ => rfl
  | .list _ => rfl
  | .pair _ _ => rfl
  | .set _ => rfl

private theorem loadAll_eq_judged (s : Strictness) (items : List Value) :
    loadAll s items = judged s (items.filterMap ofValue?) (items.flatMap findings) := by
  induction items with
  | nil => rfl
  | cons v rest ih =>
    rw [loadAll, load_eq_judged, ih, List.flatMap_cons]
    refine judged_bind _ ?_
    rw [judged_bind_ok]
    cases h : ofValue? v <;> simp [h]

end Mark

namespace Node

private theorem loadMarks_eq_judged (s : Strictness) (entries : List (Scalar × Value)) :
    loadMarks s entries = judged s (marks? entries) (marksFindings entries) := by
  unfold loadMarks marks? marksFindings
  cases Value.field? "marks" entries with
  | none => rfl
  | some v =>
    cases v with
    | scalar x => cases x <;> rfl
    | list items =>
      simp only [Mark.loadAll_eq_judged]
      exact judged_bind_ok _ _ _ _
    | _ => rfl

private theorem loadText_eq_judged (s : Strictness) (entries : List (Scalar × Value)) :
    loadText s entries =
      judged s (.text (textOf entries) (marks? entries))
        (textFindings entries ++ marksFindings entries) := by
  unfold loadText textOf textFindings
  cases Value.field? "text" entries with
  | none =>
    simp only [Option.getD_none, loadMarks_eq_judged]
    exact judged_bind_ok _ _ _ _
  | some v =>
    cases v with
    | scalar x =>
      cases x with
      | text value =>
        simp only [Option.getD_some, loadMarks_eq_judged]
        exact judged_bind_ok _ _ _ _
      | _ => rfl
    | _ => rfl

theorem loadListAttributes_eq_judged (s : Strictness) (entries : List (Scalar × Value)) :
    loadListAttributes entries =
      judged s ((attributes? entries).map listAttributes) (listFindings entries) := by
  rw [loadListAttributes, loadAttributes_eq_judged s, listFindings]
  refine judged_bind _ ?_
  cases attributes? entries with
  | none => rfl
  | some attributes =>
    simp only [Option.map_some, listAttributes, startFindings]
    cases Value.field? "start" attributes with
    | none => rfl
    | some v =>
      cases v with
      | scalar x => cases x <;> rfl
      | _ => rfl

theorem statedKind?_of_isFalsy {v : Value} (h : v.isFalsy = true) : statedKind? v = none := by
  cases v with
  | scalar x =>
    cases x with
    | text t =>
      have empty : t = "" := by simpa [Value.isFalsy] using h
      rw [empty]
      decide
    | _ => rfl
  | _ => rfl

private theorem loadKind_eq_judged {s : Strictness} {entries : List (Scalar × Value)}
    (h : loadContent s entries = judged s (contentOf entries) (contentFindings entries))
    (k : Kind) :
    loadKind s entries k =
      judged s (ofKind entries (contentOf entries) k)
        (kindFindings entries (contentFindings entries) k) := by
  cases k with
  | text => exact loadText_eq_judged s entries
  | orderedList =>
    rw [loadKind, loadListAttributes_eq_judged s, h]
    exact judged_bind _ (judged_bind_ok _ _ _ _)
  | _ =>
    rw [loadKind, h]
    exact judged_bind_ok _ _ _ _

mutual

theorem loadEntry_eq_judged (s : Strictness) :
    (v : Value) → loadEntry s v = judged s (ofValue? v) (findings v)
  | .mapping entries => by
    have content := loadContent_eq_judged s entries
    rw [loadEntry_mapping, findings, ofValue?]
    split
    next falsy =>
      -- a falsy type names no kind, so that nothing is described either
      rw [statedKind?_of_isFalsy falsy]
      exact (judged_reject s .missingType).symm
    next =>
      cases statedKind? (statedType entries) with
      | none => exact (judged_reject s (.unknownNode _)).symm
      | some k =>
        simp only [loadKind_eq_judged content]
        exact judged_bind_ok _ _ _ _
  | .again _ unrolled => by
    rw [loadEntry, ofValue?, findings]
    exact loadEntry_eq_judged s (unrolled ())
  | .scalar _ => rfl
  | .list _ => rfl
  | .pair _ _ => rfl
  | .set _ => rfl

private theorem loadContent_eq_judged (s : Strictness) : (entries : List (Scalar × Value)) →
    loadContent s entries = judged s (contentOf entries) (contentFindings entries)
  | [] => rfl
  | (k, v) :: rest => by
    rw [loadContent, contentOf, contentFindings]
    split
    · exact loadContentFrom_eq_judged s v
    · exact loadContent_eq_judged s rest

private theorem loadContentFrom_eq_judged (s : Strictness) :
    (v : Value) → loadContentFrom s v = judged s (contentFrom v) (contentFindingsFrom v)
  | .list items => by
    rw [loadContentFrom, contentFrom, contentFindingsFrom, loadEntries_eq_judged s items]
    exact judged_bind_ok _ _ _ _
  | .again _ unrolled => by
    rw [loadContentFrom, contentFrom, contentFindingsFrom]
    exact loadContentFrom_eq_judged s (unrolled ())
  | .scalar x => by cases x <;> rfl
  | .mapping _ => rfl
  | .pair _ _ => rfl
  | .set _ => rfl

private theorem loadEntries_eq_judged (s : Strictness) :
    (items : List Value) → loadEntries s items = judged s (ofValues items) (itemsFindings items)
  | [] => rfl
  | v :: rest => by
    rw [loadEntries, ofValues, itemsFindings, loadEntry_eq_judged s v,
      loadEntries_eq_judged s rest]
    exact judged_bind _ (judged_bind_ok _ _ _ _)

end

theorem load_of_ofValue? {s : Strictness} {v : Value} {n : Node} (h : ofValue? v = some n) :
    load s v = judged s n (findings v) := by
  have hroot : root v (some n) = judged s n [] := rfl
  rw [load_eq_root, loadEntry_eq_judged, h, judged_bind _ hroot, List.append_nil]

theorem load_of_defect {s : Strictness} {v : Value} {e : LoadError} {fs : List Finding}
    (h : findings v = .defect e :: fs) : load s v = .fail e := by
  rw [load_eq_root, loadEntry_eq_judged, h]
  rfl

/-- A load returns a tree without a warning exactly where there are no findings. -/
theorem load_eq_ok_iff {s : Strictness} {v : Value} {t : Node} :
    load s v = .ok t ↔ findings v = [] ∧ ofValue? v = some t := by
  rw [load_eq_root, loadEntry_eq_judged]
  cases hf : findings v with
  | cons x fs =>
    constructor
    · intro h
      exact absurd h (judged_cons_bind_ne_ok _ _ _)
    · intro h
      cases h.1
  | nil =>
    rw [Loading.judged_nil, Loading.ok_bind]
    cases ofValue? v with
    | none =>
      constructor
      · intro h
        exact absurd h (root_none_ne_ok v t)
      · intro h
        cases h.2
    | some n =>
      constructor
      · intro h
        cases h
        exact ⟨rfl, rfl⟩
      · intro h
        cases h.2
        rfl

end Node

end RichText
