import RichText.Proofs.Tree.Judged

/-!
The entries that a lenient load leaves out. A stray entry has no other finding than that it is
stray, and the strays met in any other value are the entries that are left out of it, one by one.
-/

set_option autoImplicit false
set_option relaxedAutoImplicit false

namespace RichText

namespace Mark

def stray? : Value → Option LoadWarning
  | .mapping entries => match statedKind? (statedType entries) with
    | none => some (.unknownMark (statedType entries))
    | some _ => none
  | .again _ unrolled => stray? (unrolled ())
  | _ => none

end Mark

namespace Node

/-- The warning for an entry that is left out: a mapping of missing, falsy or unknown type. -/
def stray? : Value → Option LoadWarning
  | .mapping entries =>
    if (statedType entries).isFalsy then some .missingType
    else match statedKind? (statedType entries) with
      | none => some (.unknownNode (statedType entries))
      | some _ => none
  | .again _ unrolled => stray? (unrolled ())
  | _ => none

def removedMarks (entries : List (Scalar × Value)) : List LoadWarning :=
  match Value.field? "marks" entries with
  | some (.list items) => items.filterMap Mark.stray?
  | _ => []

def removedKind (entries : List (Scalar × Value)) (content : List LoadWarning) :
    Kind → List LoadWarning
  | .text => removedMarks entries
  | _ => content

mutual

/-- The warnings for the entries that pruning leaves out, in their order, one for each. -/
def removed : Value → List LoadWarning
  | .mapping entries => match statedKind? (statedType entries) with
    | none => []
    | some k => removedKind entries (removedContent entries) k
  | .again _ unrolled => removed (unrolled ())
  | _ => []

def removedContent : List (Scalar × Value) → List LoadWarning
  | [] => []
  | (k, v) :: rest => if k = .text "content" then removedList v else removedContent rest

def removedList : Value → List LoadWarning
  | .list items => removedItems items
  | .again _ unrolled => removedList (unrolled ())
  | _ => []

def removedItems : List Value → List LoadWarning
  | [] => []
  | v :: rest => match stray? v with
    | some w => w :: removedItems rest
    | none => removed v ++ removedItems rest

end

end Node

namespace Finding

def AllDefects (fs : List Finding) : Prop := ∀ f ∈ fs, f.isDefect = true

theorem AllDefects.filter_eq {fs : List Finding} (h : AllDefects fs) :
    fs.filter isDefect = fs := List.filter_eq_self.mpr h

private theorem AllDefects.filterMap_warning? {fs : List Finding} (h : AllDefects fs) :
    fs.filterMap warning? = [] := by
  refine List.filterMap_eq_nil_iff.mpr ?_
  intro f hf
  have hdefect := h f hf
  cases f with
  | stray w => cases hdefect
  | defect e => rfl

theorem AllDefects.append {fs gs : List Finding} (hf : AllDefects fs) (hg : AllDefects gs) :
    AllDefects (fs ++ gs) := by
  intro f h
  rcases List.mem_append.mp h with h | h
  · exact hf f h
  · exact hg f h

private theorem allDefects_nil : AllDefects [] := by
  intro f h
  cases h

private theorem allDefects_single (e : LoadError) : AllDefects [.defect e] := by
  intro f h
  rw [List.mem_singleton.mp h]
  rfl

end Finding

open Finding (AllDefects allDefects_nil allDefects_single)

private theorem allDefects_attributesFindings (entries : List (Scalar × Value)) :
    AllDefects (attributesFindings entries) := by
  unfold attributesFindings
  split
  · exact allDefects_nil
  · exact allDefects_nil
  · exact allDefects_nil
  · exact allDefects_single _

namespace Mark

private theorem allDefects_fieldFindings (field : LinkField) (attributes : List (Scalar × Value)) :
    AllDefects (fieldFindings field attributes) := by
  unfold fieldFindings
  split
  · exact allDefects_nil
  · exact allDefects_nil
  · exact allDefects_nil
  · exact allDefects_single _

private theorem allDefects_linkFindings (entries : List (Scalar × Value)) :
    AllDefects (linkFindings entries) := by
  refine (allDefects_attributesFindings entries).append ?_
  cases attributes? entries with
  | none => exact allDefects_nil
  | some attributes =>
    intro f hf
    obtain ⟨field, _, hfield⟩ := List.mem_flatMap.mp hf
    exact allDefects_fieldFindings field attributes f hfield

theorem findings_of_stray {w : LoadWarning} :
    {v : Value} → stray? v = some w → findings v = [.stray w]
  | .mapping entries, h => by
    rw [stray?] at h
    rw [findings]
    cases hk : statedKind? (statedType entries) with
    | none =>
      rw [hk] at h
      simp only [Option.some.inj h]
    | some k => rw [hk] at h; cases h
  | .again _ unrolled, h => by
    rw [stray?] at h
    rw [findings]
    exact findings_of_stray h

theorem allDefects_findings : {v : Value} → stray? v = none → AllDefects (findings v)
  | .mapping entries, h => by
    rw [stray?] at h
    rw [findings]
    cases hk : statedKind? (statedType entries) with
    | none => rw [hk] at h; cases h
    | some k =>
      cases k with
      | link => exact allDefects_linkFindings entries
      | _ => exact allDefects_nil
  | .again _ unrolled, h => by
    rw [stray?] at h
    rw [findings]
    exact allDefects_findings h
  | .scalar _, _ => allDefects_single _
  | .list _, _ => allDefects_single _
  | .pair _ _, _ => allDefects_single _
  | .set _, _ => allDefects_single _

theorem ofValue?_of_stray {w : LoadWarning} :
    {v : Value} → stray? v = some w → ofValue? v = none
  | .mapping entries, h => by
    rw [stray?] at h
    rw [ofValue?]
    cases hk : statedKind? (statedType entries) with
    | none => rfl
    | some k => rw [hk] at h; cases h
  | .again _ unrolled, h => by
    rw [stray?] at h
    rw [ofValue?]
    exact ofValue?_of_stray h

private theorem filterMap_warning?_flatMap (items : List Value) :
    (items.flatMap findings).filterMap Finding.warning? = items.filterMap stray? := by
  induction items with
  | nil => rfl
  | cons v rest ih =>
    rw [List.flatMap_cons, List.filterMap_append, ih]
    cases h : stray? v with
    | none => rw [(allDefects_findings h).filterMap_warning?]; simp [h]
    | some w => rw [findings_of_stray h]; simp [h, Finding.warning?]

end Mark

namespace Node

theorem allDefects_textFindings (entries : List (Scalar × Value)) :
    AllDefects (textFindings entries) := by
  unfold textFindings
  split
  · exact allDefects_nil
  · exact allDefects_single _

private theorem allDefects_startFindings (attributes : List (Scalar × Value)) :
    AllDefects (startFindings attributes) := by
  unfold startFindings
  split
  · exact allDefects_nil
  · exact allDefects_nil
  · exact allDefects_nil
  · exact allDefects_single _

theorem allDefects_listFindings (entries : List (Scalar × Value)) :
    AllDefects (listFindings entries) := by
  refine (allDefects_attributesFindings entries).append ?_
  cases attributes? entries with
  | none => exact allDefects_nil
  | some attributes => exact allDefects_startFindings attributes

private theorem filterMap_warning?_marksFindings (entries : List (Scalar × Value)) :
    (marksFindings entries).filterMap Finding.warning? = removedMarks entries := by
  unfold marksFindings removedMarks
  split
  · next hv => rw [hv]; rfl
  · next hv => rw [hv]; rfl
  · next items hv =>
    rw [hv]
    exact Mark.filterMap_warning?_flatMap items
  · next v hnull hlist hv =>
    rw [hv]
    split
    · next items h =>
      cases h
      exact absurd rfl (hlist items)
    · rfl

theorem findings_of_kind {entries : List (Scalar × Value)} {k : Kind}
    (h : statedKind? (statedType entries) = some k) :
    findings (.mapping entries) = kindFindings entries (contentFindings entries) k := by
  have hfalsy : ¬ (statedType entries).isFalsy = true := by
    intro falsy
    rw [statedKind?_of_isFalsy falsy] at h
    cases h
  rw [findings, if_neg hfalsy, h]

theorem exists_kind_of_stray?_none {entries : List (Scalar × Value)}
    (h : stray? (.mapping entries) = none) : ∃ k, statedKind? (statedType entries) = some k := by
  rw [stray?] at h
  split at h
  · cases h
  · cases hk : statedKind? (statedType entries) with
    | none => rw [hk] at h; cases h
    | some k => exact ⟨k, rfl⟩

theorem findings_of_stray {w : LoadWarning} :
    {v : Value} → stray? v = some w → findings v = [.stray w]
  | .mapping entries, h => by
    rw [stray?] at h
    rw [findings]
    split at h
    next falsy =>
      rw [if_pos falsy, Option.some.inj h]
    next falsy =>
      rw [if_neg falsy]
      cases hk : statedKind? (statedType entries) with
      | none =>
        rw [hk] at h
        simp only [Option.some.inj h]
      | some k =>
        rw [hk] at h
        cases h
  | .again _ unrolled, h => by
    rw [stray?] at h
    rw [findings]
    exact findings_of_stray h

theorem ofValue?_of_stray {w : LoadWarning} :
    {v : Value} → stray? v = some w → ofValue? v = none
  | .mapping entries, h => by
    rw [ofValue?]
    cases hk : statedKind? (statedType entries) with
    | none => rfl
    | some k =>
      rw [stray?] at h
      split at h
      next falsy =>
        rw [statedKind?_of_isFalsy falsy] at hk
        cases hk
      next => rw [hk] at h; cases h
  | .again _ unrolled, h => by
    rw [stray?] at h
    rw [ofValue?]
    exact ofValue?_of_stray h

private theorem filterMap_warning?_kindFindings (entries : List (Scalar × Value))
    (content : List Finding) (k : Kind) :
    (kindFindings entries content k).filterMap Finding.warning? =
      removedKind entries (content.filterMap Finding.warning?) k := by
  cases k with
  | text =>
    rw [kindFindings, List.filterMap_append, filterMap_warning?_marksFindings,
      (allDefects_textFindings entries).filterMap_warning?]
    rfl
  | orderedList =>
    rw [kindFindings, List.filterMap_append,
      (allDefects_listFindings entries).filterMap_warning?]
    rfl
  | _ => rfl

mutual

theorem filterMap_warning?_findings : {v : Value} → stray? v = none →
    (findings v).filterMap Finding.warning? = removed v
  | .mapping entries, h => by
    have hcontent := filterMap_warning?_contentFindings entries
    obtain ⟨k, hk⟩ := exists_kind_of_stray?_none h
    rw [findings_of_kind hk, filterMap_warning?_kindFindings, hcontent, removed, hk]
  | .again _ unrolled, h => by
    rw [stray?] at h
    rw [findings, removed]
    exact filterMap_warning?_findings h
  | .scalar _, _ => rfl
  | .list _, _ => rfl
  | .pair _ _, _ => rfl
  | .set _, _ => rfl

private theorem filterMap_warning?_contentFindings : (entries : List (Scalar × Value)) →
    (contentFindings entries).filterMap Finding.warning? = removedContent entries
  | [] => rfl
  | (k, v) :: rest => by
    rw [contentFindings, removedContent]
    split
    · exact filterMap_warning?_contentFindingsFrom v
    · exact filterMap_warning?_contentFindings rest

private theorem filterMap_warning?_contentFindingsFrom : (v : Value) →
    (contentFindingsFrom v).filterMap Finding.warning? = removedList v
  | .list items => by
    rw [contentFindingsFrom, removedList]
    exact filterMap_warning?_itemsFindings items
  | .again _ unrolled => by
    rw [contentFindingsFrom, removedList]
    exact filterMap_warning?_contentFindingsFrom (unrolled ())
  | .scalar x => by cases x <;> rfl
  | .pair _ _ => rfl
  | .set _ => rfl
  | .mapping _ => rfl

private theorem filterMap_warning?_itemsFindings : (items : List Value) →
    (itemsFindings items).filterMap Finding.warning? = removedItems items
  | [] => rfl
  | v :: rest => by
    rw [itemsFindings, removedItems, List.filterMap_append, filterMap_warning?_itemsFindings rest]
    cases h : stray? v with
    | none => rw [filterMap_warning?_findings h]
    | some w => rw [findings_of_stray h]; rfl

end

theorem ofValue?_or_defect : {v : Value} → stray? v = none →
    (∃ n, ofValue? v = some n) ∨ ∃ e, findings v = [.defect e]
  | .mapping entries, h => by
    obtain ⟨k, hk⟩ := exists_kind_of_stray?_none h
    rw [ofValue?, hk]
    exact .inl ⟨_, rfl⟩
  | .again _ unrolled, h => by
    rw [stray?] at h
    rw [ofValue?, findings]
    exact ofValue?_or_defect h
  | .scalar _, _ => .inr ⟨_, rfl⟩
  | .list _, _ => .inr ⟨_, rfl⟩
  | .pair _ _, _ => .inr ⟨_, rfl⟩
  | .set _, _ => .inr ⟨_, rfl⟩

theorem exists_entries_of_stray {w : LoadWarning} :
    {v : Value} → stray? v = some w → ∃ entries, v.resolved = .mapping entries
  | .mapping entries, _ => ⟨entries, rfl⟩
  | .again _ unrolled, h => by
    rw [stray?] at h
    rw [Value.resolved]
    exact exists_entries_of_stray h

end Node

end RichText
