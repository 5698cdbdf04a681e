import RichText.Proofs.Json.RoundTrip
import RichText.Proofs.Tree.Endless
import RichText.Tree.Store

/-!
Trees read back from what is stored of them. The stored form of a tree loads as that tree, and its
text in JSON reads as it, strictly and leniently alike and without a warning.
-/

set_option autoImplicit false
set_option relaxedAutoImplicit false

namespace RichText

open Json (IsExact AllExact FieldsExact)

private theorem isExact_linkAttributes (a : LinkAttributes) : a.store.IsExact := by
  obtain ⟨href, className, target⟩ := a
  cases href <;> cases className <;> cases target <;>
    simp [LinkAttributes.store, presentTexts, IsExact, FieldsExact]

private theorem isExact_listAttributes (a : ListAttributes) : a.store.IsExact := by
  obtain ⟨start⟩ := a
  cases start <;> simp [ListAttributes.store, IsExact, FieldsExact]

private theorem isExact_mark (m : Mark) : m.store.IsExact := by
  cases m with
  | bold => simp [Mark.store, IsExact, FieldsExact]
  | italic => simp [Mark.store, IsExact, FieldsExact]
  | link a =>
    cases a with
    | none => simp [Mark.store, IsExact, FieldsExact]
    | some a => simp [Mark.store, IsExact, FieldsExact, isExact_linkAttributes]

private theorem allExact_marks (marks : List Mark) : AllExact (marks.map Mark.store) := by
  induction marks with
  | nil => exact trivial
  | cons m marks ih => exact ⟨isExact_mark m, ih⟩

namespace Node

mutual

private theorem isExact_store : ∀ n : Node, n.store.IsExact
  | .doc c => isExact_content .doc c
  | .paragraph c => isExact_content .paragraph c
  | .bulletList c => isExact_content .bulletList c
  | .orderedList none c => isExact_content .orderedList c
  | .orderedList (some a) none => by
    simp [store, storeContent, tagField, IsExact, FieldsExact, isExact_listAttributes]
  | .orderedList (some a) (some ns) => by
    have hns := allExact_nodes ns
    simp [store, storeContent, tagField, IsExact, FieldsExact, isExact_listAttributes, hns]
  | .listItem c => isExact_content .listItem c
  | .text s none => by simp [store, tagField, IsExact, FieldsExact]
  | .text s (some marks) => by
    simp [store, tagField, IsExact, FieldsExact, allExact_marks]

private theorem isExact_content (k : Kind) : ∀ c : Content,
    (Json.object (tagField k :: storeContent c)).IsExact
  | none => by simp [storeContent, tagField, IsExact, FieldsExact]
  | some ns => by
    have hns := allExact_nodes ns
    simp [storeContent, tagField, IsExact, FieldsExact, hns]

private theorem allExact_nodes : ∀ ns : List Node, AllExact (storeNodes ns)
  | [] => trivial
  | n :: ns => ⟨isExact_store n, allExact_nodes ns⟩

end

end Node

private theorem Mark.loadLink_store (a : LinkAttributes) (tag : Scalar × Value)
    (ht : tag.1 ≠ .text "attrs") :
    Mark.loadLink [tag, (.text "attrs", a.store.toValue)] = .ok (.link (some a)) := by
  have hattributes : loadAttributes [tag, (.text "attrs", a.store.toValue)] =
      .ok (some (Json.entriesOf
        (presentTexts [("href", a.href), ("class", a.className), ("target", a.target)]))) := by
    simp [loadAttributes, Value.field?, ht, LinkAttributes.store, Json.toValue, Value.resolved]
  obtain ⟨href, className, target⟩ := a
  rw [Mark.loadLink, hattributes, Loading.ok_bind]
  cases href <;> cases className <;> cases target <;>
    simp [presentTexts, Json.entriesOf, Json.toValue, Mark.loadLinkField, LinkField.name,
      Value.field?, Value.resolved]

private theorem Mark.load_store (s : Strictness) (m : Mark) :
    Mark.load s m.store.toValue = .ok (some m) := by
  cases m with
  | bold => rfl
  | italic => rfl
  | link a =>
    cases a with
    | none => rfl
    | some a =>
      have hlink := Mark.loadLink_store a (.text "type", .text "link") (by decide)
      simp [Mark.store, Mark.tag, Json.toValue, Json.entriesOf, Mark.load, statedType,
        Value.field?, Value.resolved, hlink]

private theorem Mark.loadAll_store (s : Strictness) (marks : List Mark) :
    Mark.loadAll s (Json.valuesOf (marks.map Mark.store)) = .ok marks := by
  induction marks with
  | nil => rfl
  | cons m marks ih =>
    rw [List.map_cons, Json.valuesOf, Mark.loadAll, Mark.load_store, Loading.ok_bind, ih,
      Loading.ok_bind]
    rfl

private theorem Node.loadListAttributes_store (a : ListAttributes) (tag : Scalar × Value)
    (rest : List (Scalar × Value)) (ht : tag.1 ≠ .text "attrs") :
    Node.loadListAttributes (tag :: (.text "attrs", a.store.toValue) :: rest) = .ok (some a) := by
  obtain ⟨start⟩ := a
  cases start <;>
    simp [Node.loadListAttributes, loadAttributes, ListAttributes.store, Value.field?, ht,
      Json.toValue, Json.entriesOf, Value.resolved]

namespace Node

private theorem loadListAttributes_none (tag : Scalar × Value) (ht : tag.1 ≠ .text "attrs")
    (c : Content) :
    Node.loadListAttributes (tag :: Json.entriesOf (storeContent c)) = .ok none := by
  cases c <;>
    simp [Node.loadListAttributes, loadAttributes, storeContent, Value.field?, ht,
      Json.entriesOf]

private theorem tag_isFalsy (k : Kind) : (Value.text k.tag).isFalsy = false := by
  cases k <;> decide

private theorem loadEntry_tagged (s : Strictness) (k : Kind) (rest : List (Scalar × Value)) :
    loadEntry s (.mapping ((.text "type", .text k.tag) :: rest)) =
      loadKind s ((.text "type", .text k.tag) :: rest) k >>= fun n => .ok (some n) := by
  have ht : statedType ((.text "type", .text k.tag) :: rest) = .text k.tag := by
    simp [statedType, Value.field?, Value.resolved]
  have hk : statedKind? (.text k.tag) = some k := Kind.ofTag?_tag k
  rw [loadEntry_mapping, ht, if_neg (by simp [tag_isFalsy]), hk]

private theorem toValue_tagged (k : Kind) (fields : List (String × Json)) :
    (Json.object (tagField k :: fields)).toValue =
      .mapping ((.text "type", .text k.tag) :: Json.entriesOf fields) := rfl

private theorem loadContent_cons (s : Strictness) {key : String} (hk : key ≠ "content") (v : Value)
    (rest : List (Scalar × Value)) :
    loadContent s ((.text key, v) :: rest) = loadContent s rest := by
  rw [loadContent, if_neg (by simpa using hk)]

mutual

private theorem loadEntry_store (s : Strictness) : ∀ n : Node,
    loadEntry s n.store.toValue = .ok (some n)
  | .doc c => by
    rw [store, toValue_tagged, loadEntry_tagged, loadKind, loadContent_cons s (by decide),
      loadContent_store s c]
    rfl
  | .paragraph c => by
    rw [store, toValue_tagged, loadEntry_tagged, loadKind, loadContent_cons s (by decide),
      loadContent_store s c]
    rfl
  | .bulletList c => by
    rw [store, toValue_tagged, loadEntry_tagged, loadKind, loadContent_cons s (by decide),
      loadContent_store s c]
    rfl
  | .orderedList none c => by
    rw [store, toValue_tagged, loadEntry_tagged, loadKind, loadListAttributes_none _ (by decide),
      Loading.ok_bind, loadContent_cons s (by decide), loadContent_store s c]
    rfl
  | .orderedList (some a) c => by
    rw [store, toValue_tagged, Json.entriesOf, loadEntry_tagged, loadKind,
      loadListAttributes_store a _ _ (by decide), Loading.ok_bind,
      loadContent_cons s (by decide), loadContent_cons s (by decide), loadContent_store s c]
    rfl
  | .listItem c => by
    rw [store, toValue_tagged, loadEntry_tagged, loadKind, loadContent_cons s (by decide),
      loadContent_store s c]
    rfl
  | .text v none => rfl
  | .text v (some marks) => by
    have hmarks := Mark.loadAll_store s marks
    have htext : loadText s [(.text "type", .text Kind.text.tag), (.text "text", .text v),
        (.text "marks", .list (Json.valuesOf (marks.map Mark.store)))] =
        .ok (.text v (some marks)) := by
      simp [loadText, loadMarks, Value.field?, Value.resolved, hmarks]
    rw [store, toValue_tagged, loadEntry_tagged, loadKind]
    simp [Json.entriesOf, Json.toValue, htext]

private theorem loadContent_store (s : Strictness) : ∀ c : Content,
    loadContent s (Json.entriesOf (storeContent c)) = .ok c
  | none => rfl
  | some ns => by
    have hns := loadEntries_store s ns
    simp [storeContent, Json.entriesOf, Json.toValue, loadContent, loadContentFrom, hns]

private theorem loadEntries_store (s : Strictness) : ∀ ns : List Node,
    loadEntries s (Json.valuesOf (storeNodes ns)) = .ok ns
  | [] => rfl
  | n :: ns => by
    rw [storeNodes, Json.valuesOf, loadEntries, loadEntry_store s n, Loading.ok_bind,
      loadEntries_store s ns, Loading.ok_bind]
    rfl

end

private theorem load_store (s : Strictness) (n : Node) : Node.load s n.store.toValue = .ok n := by
  rw [Node.load, loadEntry_store, Loading.ok_bind]

/-- The text that is stored of a tree reads as that tree, in every layout, strictly and leniently
alike, and without a warning. -/
theorem read_store (s : Strictness) (indent : Option Int) (n : Node) :
    Node.read .json s (n.store.render indent) = ⟨[], .ok n⟩ := by
  rw [Node.read, TextFormat.parse, Json.parse_render indent n.store (isExact_store n)]
  simp only [isEndless_toValue, load_store]
  rfl

end Node

end RichText
