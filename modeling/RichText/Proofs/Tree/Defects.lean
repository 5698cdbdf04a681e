import RichText.Proofs.Tree.Judged
import RichText.Tree.Store

/-!
What a strict load accepts: the values without defects, and no others. Of any other value it reports
the first defect. The tree of an accepted value is stored as the normal form of that value.
-/

set_option autoImplicit false
set_option relaxedAutoImplicit false

namespace RichText

/-- The stored form of a text or an integer, the only scalars in stored trees. -/
def Value.stored? : Value → Option Json
  | .text s => some (.text s)
  | .int n => some (.int n)
  | _ => none

def keptField? (key : String) (entries : List (Scalar × Value)) : Option (String × Json) :=
  ((Value.field? key entries).bind Value.stored?).map fun j => (key, j)

def keptFields (keys : List String) (entries : List (Scalar × Value)) : List (String × Json) :=
  keys.filterMap fun key => keptField? key entries

def normalAttributes (keys : List String) (entries : List (Scalar × Value)) :
    List (String × Json) :=
  match attributes? entries with
  | none => []
  | some attributes => [("attrs", .object (keptFields keys attributes))]

namespace Mark

def normalKind (entries : List (Scalar × Value)) : Kind → Json
  | .bold => .object [("type", .text "bold")]
  | .italic => .object [("type", .text "italic")]
  | .link => .object
    (("type", .text "link") :: normalAttributes ["href", "class", "target"] entries)

def normal : Value → Json
  | .mapping entries => match statedKind? (statedType entries) with
    | none => .null
    | some k => normalKind entries k
  | .again _ unrolled => normal (unrolled ())
  | _ => .null

end Mark

namespace Node

def normalMarks (entries : List (Scalar × Value)) : List (String × Json) :=
  match Value.field? "marks" entries with
  | some (.list items) => [("marks", .array (items.map Mark.normal))]
  | _ => []

/-- The normal form of an entry of some kind: its known fields in their order, without those that
are null, and a text even where there is none. -/
def normalKind (entries : List (Scalar × Value)) (content : List (String × Json)) : Kind → Json
  | .text => .object (tagField .text :: ("text", .text (textOf entries)) :: normalMarks entries)
  | .orderedList =>
    .object (tagField .orderedList :: (normalAttributes ["start"] entries ++ content))
  | k => .object (tagField k :: content)

mutual

def normal : Value → Json
  | .mapping entries => match statedKind? (statedType entries) with
    | none => .null
    | some k => normalKind entries (normalContent entries) k
  | .again _ unrolled => normal (unrolled ())
  | _ => .null

def normalContent : List (Scalar × Value) → List (String × Json)
  | [] => []
  | (k, v) :: rest => if k = .text "content" then normalContentFrom v else normalContent rest

def normalContentFrom : Value → List (String × Json)
  | .list items => [("content", .array (normalItems items))]
  | .again _ unrolled => normalContentFrom (unrolled ())
  | _ => []

def normalItems : List Value → List Json
  | [] => []
  | v :: rest => normal v :: normalItems rest

end

end Node

namespace Mark

private theorem keptField?_of_fieldFindings {field : LinkField} {attributes : List (Scalar × Value)}
    (h : fieldFindings field attributes = []) :
    keptField? field.name attributes =
      (field? field attributes).map fun s => (field.name, .text s) := by
  unfold fieldFindings at h
  unfold keptField? field?
  cases hv : Value.field? field.name attributes with
  | none => rfl
  | some v =>
    rw [hv] at h
    cases v with
    | scalar x => cases x <;> first | rfl | cases h
    | _ => cases h

private theorem store_linkAttributes {attributes : List (Scalar × Value)}
    (h : ([LinkField.href, .className, .target].flatMap fun field =>
      fieldFindings field attributes) = []) :
    (linkAttributes attributes).store =
      .object (keptFields ["href", "class", "target"] attributes) := by
  have hfields := List.flatMap_eq_nil_iff.mp h
  have hhref := keptField?_of_fieldFindings (hfields .href (by simp))
  have hclass := keptField?_of_fieldFindings (hfields .className (by simp))
  have htarget := keptField?_of_fieldFindings (hfields .target (by simp))
  simp only [LinkField.name] at hhref hclass htarget
  simp [LinkAttributes.store, linkAttributes, presentTexts, keptFields, List.filterMap_cons,
    hhref, hclass, htarget]

private theorem store_ofKind {entries : List (Scalar × Value)} {k : Kind}
    (h : kindFindings entries k = []) : (ofKind entries k).store = normalKind entries k := by
  cases k with
  | bold => rfl
  | italic => rfl
  | link =>
    rw [kindFindings, linkFindings, List.append_eq_nil_iff] at h
    rw [ofKind, normalKind, normalAttributes]
    cases ha : attributes? entries with
    | none => rfl
    | some attributes =>
      rw [ha] at h
      simp [store, tag, store_linkAttributes h.2]

private theorem exists_ofValue?_of_findings : {v : Value} → findings v = [] →
    ∃ m, ofValue? v = some m ∧ m.store = normal v
  | .mapping entries, h => by
    rw [findings] at h
    rw [ofValue?, normal]
    cases hk : statedKind? (statedType entries) with
    | none => rw [hk] at h; cases h
    | some k =>
      rw [hk] at h
      exact ⟨_, rfl, store_ofKind h⟩
  | .again _ unrolled, h => by
    rw [findings] at h
    rw [ofValue?, normal]
    exact exists_ofValue?_of_findings h

private theorem store_filterMap_ofValue? {items : List Value} (h : items.flatMap findings = []) :
    (items.filterMap ofValue?).map store = items.map normal := by
  induction items with
  | nil => rfl
  | cons v rest ih =>
    rw [List.flatMap_cons, List.append_eq_nil_iff] at h
    obtain ⟨m, hm, hstore⟩ := exists_ofValue?_of_findings h.1
    rw [List.filterMap_cons_some hm, List.map_cons, List.map_cons, hstore, ih h.2]

end Mark

namespace Node

private theorem store_text {entries : List (Scalar × Value)} (h : marksFindings entries = []) :
    (Node.text (textOf entries) (marks? entries)).store =
      .object (tagField .text :: ("text", .text (textOf entries)) :: normalMarks entries) := by
  unfold marksFindings at h
  unfold marks? normalMarks
  split at h
  · next hv => rw [hv]; rfl
  · next hv => rw [hv]; rfl
  · next items hv =>
    rw [hv]
    simp only [store, Mark.store_filterMap_ofValue? h]
  · cases h

private theorem store_listAttributes {attributes : List (Scalar × Value)}
    (h : startFindings attributes = []) :
    (listAttributes attributes).store = .object (keptFields ["start"] attributes) := by
  unfold startFindings at h
  unfold listAttributes ListAttributes.store keptFields
  cases hv : Value.field? "start" attributes with
  | none => simp [keptField?, hv]
  | some v =>
    rw [hv] at h
    cases v with
    | scalar x =>
      cases x with
      | null => simp [keptField?, hv, Value.stored?]
      | int n => simp [keptField?, hv, Value.stored?]
      | _ => cases h
    | _ => cases h

private theorem store_ofKind {entries : List (Scalar × Value)} {findings : List Finding}
    {content : Content} {stored : List (String × Json)}
    (hcontent : findings = [] → storeContent content = stored) {k : Kind}
    (h : kindFindings entries findings k = []) :
    (ofKind entries content k).store = normalKind entries stored k := by
  cases k with
  | text =>
    rw [kindFindings, List.append_eq_nil_iff] at h
    exact store_text h.2
  | orderedList =>
    rw [kindFindings, listFindings, List.append_eq_nil_iff, List.append_eq_nil_iff] at h
    rw [normalKind, ← hcontent h.2, ofKind, normalAttributes]
    cases ha : attributes? entries with
    | none => rfl
    | some attributes =>
      rw [ha] at h
      simp [store, store_listAttributes h.1.2]
  | _ =>
    simp only [ofKind, normalKind, store, hcontent h]

mutual

private theorem exists_ofValue?_of_findings : {v : Value} → findings v = [] →
    ∃ n, ofValue? v = some n ∧ n.store = normal v
  | .mapping entries, h => by
    have hcontent : contentFindings entries = [] →
        storeContent (contentOf entries) = normalContent entries := store_contentOf
    rw [findings] at h
    rw [ofValue?, normal]
    split at h
    · cases h
    · cases hk : statedKind? (statedType entries) with
      | none => rw [hk] at h; cases h
      | some k =>
        rw [hk] at h
        exact ⟨_, rfl, store_ofKind hcontent h⟩
  | .again _ unrolled, h => by
    rw [findings] at h
    rw [ofValue?, normal]
    exact exists_ofValue?_of_findings h

private theorem store_contentOf : {entries : List (Scalar × Value)} → contentFindings entries = [] →
    storeContent (contentOf entries) = normalContent entries
  | [], _ => rfl
  | (k, v) :: rest, h => by
    rw [contentFindings] at h
    rw [contentOf, normalContent]
    split at h
    next hk =>
      rw [if_pos hk, if_pos hk]
      exact store_contentFrom h
    next hk =>
      rw [if_neg hk, if_neg hk]
      exact store_contentOf h

private theorem store_contentFrom : {v : Value} → contentFindingsFrom v = [] →
    storeContent (contentFrom v) = normalContentFrom v
  | .list items, h => by
    rw [contentFindingsFrom] at h
    rw [contentFrom, normalContentFrom, storeContent, store_ofValues h]
  | .again _ unrolled, h => by
    rw [contentFindingsFrom] at h
    rw [contentFrom, normalContentFrom]
    exact store_contentFrom h
  | .scalar x, h => rfl

private theorem store_ofValues : {items : List Value} → itemsFindings items = [] →
    storeNodes (ofValues items) = normalItems items
  | [], _ => rfl
  | v :: rest, h => by
    rw [itemsFindings, List.append_eq_nil_iff] at h
    obtain ⟨n, hn, hstore⟩ := exists_ofValue?_of_findings h.1
    rw [ofValues, normalItems, hn, ← hstore, ← store_ofValues h.2]
    rfl

end

/-- What a strict load has against a value, in the order in which it goes through it. -/
def defects (v : Value) : List LoadError := (findings v).map Finding.error

/-- The attributes of a list come before its content, in whatever order the fields stand. -/
example : load .strict (.mapping [(.text "type", .text "orderedList"), (.text "content", .int 0),
    (.text "attrs", .mapping [(.text "start", .bool true)])]) =
      .fail (.startNotInteger (.bool true)) := by
  rfl

end Node

end RichText
