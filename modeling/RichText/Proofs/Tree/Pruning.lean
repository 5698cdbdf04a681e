import RichText.Proofs.Tree.Strays

/-!
What a lenient load makes of a value: the tree that a strict load makes of the value without its
stray entries. Every entry that is left out gives one warning, nothing below it is looked at, and
what is wrong beside it stays wrong.
-/

set_option autoImplicit false
set_option relaxedAutoImplicit false

namespace RichText

def alterField (key : String) (f : Value → Value) :
    List (Scalar × Value) → List (Scalar × Value)
  | [] => []
  | (k, v) :: rest => if k = .text key then (k, f v) :: rest else (k, v) :: alterField key f rest

private theorem resolved_ne_again {between : Nat} {unrolled : Unit → Value} :
    (v : Value) → v.resolved ≠ .again between unrolled
  | .again _ again => by
    rw [Value.resolved]
    exact resolved_ne_again (again ())
  | .scalar _ => nofun
  | .list _ => nofun
  | .pair _ _ => nofun
  | .set _ => nofun
  | .mapping _ => nofun

private theorem field?_ne_again {between : Nat} {unrolled : Unit → Value} (key : String)
    (entries : List (Scalar × Value)) :
    Value.field? key entries ≠ some (.again between unrolled) := by
  induction entries with
  | nil => nofun
  | cons e rest ih =>
    rw [Value.field?]
    split
    · intro h
      exact resolved_ne_again _ (Option.some.inj h)
    · exact ih

private theorem field?_alterField {key : String} {f : Value → Value}
    (hf : ∀ v, (f v).resolved = f v.resolved) (entries : List (Scalar × Value)) :
    Value.field? key (alterField key f entries) = (Value.field? key entries).map f := by
  induction entries with
  | nil => rfl
  | cons e rest ih =>
    obtain ⟨k, v⟩ := e
    rw [alterField, Value.field?]
    split
    next hk => rw [Value.field?, if_pos hk, hf]; rfl
    next hk => rw [Value.field?, if_neg hk, ih]

private theorem field?_alterField_of_ne {key other : String} (h : other ≠ key) (f : Value → Value)
    (entries : List (Scalar × Value)) :
    Value.field? other (alterField key f entries) = Value.field? other entries := by
  induction entries with
  | nil => rfl
  | cons e rest ih =>
    obtain ⟨k, v⟩ := e
    rw [alterField]
    split
    next hk =>
      have hother : k ≠ .text other := by
        rw [hk]
        simpa using h.symm
      rw [Value.field?, Value.field?, if_neg hother, if_neg hother]
    next => rw [Value.field?, Value.field?, ih]

private theorem statedType_alterField {key : String} (h : "type" ≠ key) (f : Value → Value)
    (entries : List (Scalar × Value)) :
    statedType (alterField key f entries) = statedType entries := by
  rw [statedType, field?_alterField_of_ne h, statedType]

namespace Mark

/-- A list of marks without the stray ones; anything else stays as it is. -/
def pruneList : Value → Value
  | .list items => .list (items.filter fun v => (stray? v).isNone)
  | .again _ unrolled => pruneList (unrolled ())
  | v => v

private theorem resolved_pruneList : (v : Value) → (pruneList v).resolved = pruneList v.resolved
  | .again _ unrolled => by
    rw [pruneList, Value.resolved]
    exact resolved_pruneList (unrolled ())
  | .scalar _ => rfl
  | .list _ => rfl
  | .pair _ _ => rfl
  | .set _ => rfl
  | .mapping _ => rfl

/-- A list of marks and the list without the stray ones: the same marks, the same defects, and one
stray finding for each mark between the two. -/
theorem filterMap_ofValue?_prune (items : List Value) :
    (items.filter fun v => (stray? v).isNone).filterMap ofValue? = items.filterMap ofValue? := by
  induction items with
  | nil => rfl
  | cons v rest ih =>
    cases h : stray? v with
    | none => simp [h, List.filterMap_cons, ih]
    | some w => simp [h, ofValue?_of_stray h, ih]

private theorem flatMap_findings_prune (items : List Value) :
    (items.filter fun v => (stray? v).isNone).flatMap findings =
      (items.flatMap findings).filter Finding.isDefect := by
  induction items with
  | nil => rfl
  | cons v rest ih =>
    rw [List.flatMap_cons, List.filter_append, ← ih]
    cases h : stray? v with
    | none => rw [(allDefects_findings h).filter_eq]; simp [h]
    | some w =>
      rw [findings_of_stray h]
      simp [h, Finding.isDefect, Finding.isStray, Finding.warning?]

end Mark

namespace Node

def pruneKind (entries content : List (Scalar × Value)) : Kind → List (Scalar × Value)
  | .text => alterField "marks" Mark.pruneList entries
  | _ => content

mutual

/-- A value without the stray entries of its contents and of its marks. -/
def prune : Value → Value
  | .mapping entries => match statedKind? (statedType entries) with
    | none => .mapping entries
    | some k => .mapping (pruneKind entries (pruneContent entries) k)
  | .again _ unrolled => prune (unrolled ())
  | v => v

def pruneContent : List (Scalar × Value) → List (Scalar × Value)
  | [] => []
  | (k, v) :: rest =>
    if k = .text "content" then (k, pruneList v) :: rest else (k, v) :: pruneContent rest

def pruneList : Value → Value
  | .list items => .list (pruneItems items)
  | .again _ unrolled => pruneList (unrolled ())
  | v => v

def pruneItems : List Value → List Value
  | [] => []
  | v :: rest => match stray? v with
    | some _ => pruneItems rest
    | none => prune v :: pruneItems rest

end

private theorem marksFindings_prune (entries : List (Scalar × Value)) :
    marksFindings (alterField "marks" Mark.pruneList entries) =
      (marksFindings entries).filter Finding.isDefect := by
  unfold marksFindings
  rw [field?_alterField Mark.resolved_pruneList]
  cases hv : Value.field? "marks" entries with
  | none => rfl
  | some v =>
    cases v with
    | scalar x => cases x <;> rfl
    | list items => exact Mark.flatMap_findings_prune items
    | again between unrolled => exact absurd hv (field?_ne_again _ _)
    | _ => rfl

private theorem marks?_prune (entries : List (Scalar × Value)) :
    marks? (alterField "marks" Mark.pruneList entries) = marks? entries := by
  unfold marks?
  rw [field?_alterField Mark.resolved_pruneList]
  cases hv : Value.field? "marks" entries with
  | none => rfl
  | some v =>
    cases v with
    | scalar x => cases x <;> rfl
    | list items => exact congrArg some (Mark.filterMap_ofValue?_prune items)
    | again between unrolled => exact absurd hv (field?_ne_again _ _)
    | _ => rfl

private theorem pruneContent_eq_alterField (entries : List (Scalar × Value)) :
    pruneContent entries = alterField "content" pruneList entries := by
  induction entries with
  | nil => rfl
  | cons e rest ih =>
    obtain ⟨k, v⟩ := e
    rw [pruneContent, alterField, ih]

private theorem statedType_pruneKind (entries : List (Scalar × Value)) (k : Kind) :
    statedType (pruneKind entries (pruneContent entries) k) = statedType entries := by
  cases k with
  | text => exact statedType_alterField (by decide) _ _
  | _ =>
    rw [pruneKind, pruneContent_eq_alterField]
    · exact statedType_alterField (by decide) _ _
    · nofun

private theorem field?_attrs_pruneContent (entries : List (Scalar × Value)) :
    Value.field? "attrs" (pruneContent entries) = Value.field? "attrs" entries := by
  rw [pruneContent_eq_alterField]
  exact field?_alterField_of_ne (by decide) _ _

private theorem field?_text_pruneMarks (entries : List (Scalar × Value)) :
    Value.field? "text" (alterField "marks" Mark.pruneList entries) =
      Value.field? "text" entries :=
  field?_alterField_of_ne (by decide) _ _

private theorem listFindings_pruneContent (entries : List (Scalar × Value)) :
    listFindings (pruneContent entries) = listFindings entries := by
  unfold listFindings attributesFindings attributes?
  rw [field?_attrs_pruneContent]

private theorem textFindings_pruneMarks (entries : List (Scalar × Value)) :
    textFindings (alterField "marks" Mark.pruneList entries) = textFindings entries := by
  unfold textFindings
  rw [field?_text_pruneMarks]

private theorem kindFindings_prune {entries : List (Scalar × Value)} (k : Kind)
    (h : contentFindings (pruneContent entries) =
      (contentFindings entries).filter Finding.isDefect) :
    kindFindings (pruneKind entries (pruneContent entries) k)
        (contentFindings (pruneKind entries (pruneContent entries) k)) k =
      (kindFindings entries (contentFindings entries) k).filter Finding.isDefect := by
  cases k with
  | text =>
    simp only [kindFindings, pruneKind, List.filter_append]
    rw [textFindings_pruneMarks, marksFindings_prune,
      (allDefects_textFindings entries).filter_eq]
  | orderedList =>
    simp only [kindFindings, pruneKind, List.filter_append]
    rw [listFindings_pruneContent, h, (allDefects_listFindings entries).filter_eq]
  | _ => exact h

private theorem ofKind_prune {entries : List (Scalar × Value)} (k : Kind)
    (h : contentOf (pruneContent entries) = contentOf entries) :
    ofKind (pruneKind entries (pruneContent entries) k)
        (contentOf (pruneKind entries (pruneContent entries) k)) k =
      ofKind entries (contentOf entries) k := by
  cases k with
  | text =>
    simp only [ofKind, pruneKind, marks?_prune, textOf, field?_text_pruneMarks]
  | orderedList =>
    simp only [ofKind, pruneKind, attributes?, field?_attrs_pruneContent, h]
  | _ => simp only [ofKind, pruneKind, h]

mutual

/-- Pruning leaves out the stray entries and keeps every defect. -/
theorem findings_prune : {v : Value} → stray? v = none →
    findings (prune v) = (findings v).filter Finding.isDefect
  | .mapping entries, h => by
    have hcontent := contentFindings_pruneContent entries
    obtain ⟨k, hk⟩ := exists_kind_of_stray?_none h
    -- pruning leaves the stated type alone, so the pruned mapping is checked as the same kind
    have hkind : statedKind?
        (statedType (pruneKind entries (pruneContent entries) k)) = some k := by
      rw [statedType_pruneKind, hk]
    rw [prune, hk, findings_of_kind hk]
    exact (findings_of_kind hkind).trans (kindFindings_prune k hcontent)
  | .again _ unrolled, h => by
    rw [stray?] at h
    rw [findings, prune]
    exact findings_prune h
  | .scalar _, _ => rfl
  | .list _, _ => rfl
  | .pair _ _, _ => rfl
  | .set _, _ => rfl

private theorem contentFindings_pruneContent : (entries : List (Scalar × Value)) →
    contentFindings (pruneContent entries) =
      (contentFindings entries).filter Finding.isDefect
  | [] => rfl
  | (k, v) :: rest => by
    rw [contentFindings, pruneContent]
    split
    next hk =>
      rw [contentFindings, if_pos hk]
      exact contentFindingsFrom_pruneList v
    next hk =>
      rw [contentFindings, if_neg hk]
      exact contentFindings_pruneContent rest

private theorem contentFindingsFrom_pruneList : (v : Value) →
    contentFindingsFrom (pruneList v) = (contentFindingsFrom v).filter Finding.isDefect
  | .list items => by
    rw [contentFindingsFrom, pruneList, contentFindingsFrom]
    exact itemsFindings_pruneItems items
  | .again _ unrolled => by
    rw [contentFindingsFrom, pruneList]
    exact contentFindingsFrom_pruneList (unrolled ())
  | .scalar x => by cases x <;> rfl
  | .pair _ _ => rfl
  | .set _ => rfl
  | .mapping _ => rfl

private theorem itemsFindings_pruneItems : (items : List Value) →
    itemsFindings (pruneItems items) = (itemsFindings items).filter Finding.isDefect
  | [] => rfl
  | v :: rest => by
    rw [itemsFindings, pruneItems, List.filter_append, ← itemsFindings_pruneItems rest]
    cases h : stray? v with
    | none =>
      rw [← findings_prune h]
      rfl
    | some w =>
      rw [findings_of_stray h]
      rfl

end

mutual

private theorem ofValue?_prune : (v : Value) → ofValue? (prune v) = ofValue? v
  | .mapping entries => by
    have hcontent := contentOf_pruneContent entries
    rw [prune]
    cases hk : statedKind? (statedType entries) with
    | none => rfl
    | some k =>
      simp only [ofValue?, statedType_pruneKind, hk, Option.map_some, ofKind_prune k hcontent]
  | .again _ unrolled => by
    rw [prune, ofValue?]
    exact ofValue?_prune (unrolled ())
  | .scalar _ => rfl
  | .list _ => rfl
  | .pair _ _ => rfl
  | .set _ => rfl

private theorem contentOf_pruneContent : (entries : List (Scalar × Value)) →
    contentOf (pruneContent entries) = contentOf entries
  | [] => rfl
  | (k, v) :: rest => by
    rw [contentOf, pruneContent]
    split
    next hk =>
      rw [contentOf, if_pos hk]
      exact contentFrom_pruneList v
    next hk =>
      rw [contentOf, if_neg hk]
      exact contentOf_pruneContent rest

private theorem contentFrom_pruneList : (v : Value) → contentFrom (pruneList v) = contentFrom v
  | .list items => by
    rw [contentFrom, pruneList, contentFrom, ofValues_pruneItems items]
  | .again _ unrolled => by
    rw [contentFrom, pruneList]
    exact contentFrom_pruneList (unrolled ())
  | .scalar _ => rfl
  | .pair _ _ => rfl
  | .set _ => rfl
  | .mapping _ => rfl

private theorem ofValues_pruneItems : (items : List Value) →
    ofValues (pruneItems items) = ofValues items
  | [] => rfl
  | v :: rest => by
    rw [ofValues, pruneItems, ← ofValues_pruneItems rest]
    cases h : stray? v with
    | none => simp only [ofValues, ofValue?_prune v]
    | some w => simp only [ofValue?_of_stray h, Option.toList_none, List.nil_append]

end

private theorem load_lenient_of_stray {v : Value} {w : LoadWarning} (h : stray? v = some w) :
    ∃ entries, v.resolved = .mapping entries ∧
      load .lenient v = ⟨[w], .error (.rootDropped (statedType entries))⟩ := by
  obtain ⟨entries, hentries⟩ := exists_entries_of_stray h
  refine ⟨entries, hentries, ?_⟩
  rw [load, loadEntry_eq_judged, findings_of_stray h, ofValue?_of_stray h, hentries]
  rfl

private theorem load_lenient_of_kept {v : Value} (h : stray? v = none) :
    load .lenient v =
      ⟨((findings v).takeWhile Finding.isStray).filterMap Finding.warning?,
        (load .strict (prune v)).outcome⟩ := by
  have hprune := findings_prune h
  rcases ofValue?_or_defect h with ⟨n, hn⟩ | ⟨e, he⟩
  · rw [load_of_ofValue? hn, load_of_ofValue? ((ofValue?_prune v).trans hn), hprune]
    exact Loading.judged_lenient n (findings v)
  · -- no mapping at all: pruning has nothing to leave out
    have hdefect : findings (prune v) = [.defect e] := by
      rw [hprune, he]
      rfl
    rw [load_of_defect he, load_of_defect hdefect, he]
    rfl

private theorem warnings_of_ok {v : Value} {t : Node} (h : stray? v = none)
    (ht : (load .lenient v).outcome = .ok t) : (load .lenient v).warnings = removed v := by
  rcases ofValue?_or_defect h with ⟨n, hn⟩ | ⟨e, he⟩
  · rw [load_of_ofValue? hn] at ht ⊢
    rw [Loading.judged_warnings ht, filterMap_warning?_findings h]
  · rw [load_of_defect he] at ht
    cases ht

/-- A content of the wrong shape below a stray entry is not met. -/
example : load .lenient (.mapping [(.text "type", .text "doc"), (.text "content", .list [
    .mapping [(.text "type", .text "table"), (.text "content", .int 0)],
    .mapping [(.text "type", .text "text"), (.text "marks", .list [.mapping []])]])]) =
      ⟨[.unknownNode (.text "table"), .unknownMark .null],
        .ok (.doc (some [.text "" (some [])]))⟩ := by
  rfl

end Node

end RichText
