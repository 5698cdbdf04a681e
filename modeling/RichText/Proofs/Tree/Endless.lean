import Mathlib.Logic.Relation
import RichText.Proofs.Tree.Judged
import RichText.Tree.Read

/-!
Which loads have no end. A load goes from an entry to the entries of its content, one after the
other as long as there is nothing to find. It has no end where that way leads to a collection that
it is inside of already. Data in JSON never do that.
-/

set_option autoImplicit false
set_option relaxedAutoImplicit false

namespace RichText.Node

open Loading (judged)

/-- A strict load of a mapping looks for content: its kind has some, and there is nothing to find in
the attributes of a list, which come first. -/
def LooksInside (entries : List (Scalar × Value)) : Prop :=
  ∃ k, statedKind? (statedType entries) = some k ∧ k ≠ .text ∧
    (k = .orderedList → listFindings entries = [])

/-- A strict load of a mapping comes to this content. -/
structure Opens (entries : List (Scalar × Value)) (content : Value) : Prop where
  inside : LooksInside entries
  field : entries.lookup (.text "content") = some content

/-- A strict load of an entry comes to this entry of its content. -/
inductive Enters : Value → Value → Prop
  | item {entries : List (Scalar × Value)} {before after : List Value} {v : Value} :
      Opens entries (.list (before ++ v :: after)) → (∀ u ∈ before, findings u = []) →
      Enters (.mapping entries) v

/-- An entry is a mapping that it is inside of, or its content is a list that it is inside of. -/
inductive Returns : Value → Prop
  | entry {between : Nat} {unrolled : Unit → Value} {entries : List (Scalar × Value)} :
      (unrolled ()).resolved = .mapping entries → Returns (.again between unrolled)
  | content {entries : List (Scalar × Value)} {between : Nat} {unrolled : Unit → Value}
      {items : List Value} : Opens entries (.again between unrolled) →
      (unrolled ()).resolved = .list items → Returns (.mapping entries)

/-- The way of a strict load leads back to where it has been. -/
def Endless (v : Value) : Prop := ∃ u, Relation.ReflTransGen Enters v u ∧ Returns u

private theorem isOk_judged_strict {α : Type} (a : α) (fs : List Finding) :
    (judged .strict a fs).outcome.isOk = true ↔ fs = [] := by
  cases fs with
  | nil => simp [judged, Loading.ok, Except.isOk, Except.toBool]
  | cons x fs => cases x <;> simp [judged, Loading.fail, Except.isOk, Except.toBool]

private theorem isEndless_mapping_iff (entries : List (Scalar × Value)) :
    isEndless .strict (.mapping entries) = true ↔
      LooksInside entries ∧ isContentEndless .strict entries = true := by
  rw [isEndless, LooksInside]
  cases statedKind? (statedType entries) with
  | none => simp
  | some k =>
    cases k with
    | orderedList =>
      simp [loadListAttributes_eq_judged .strict, isOk_judged_strict]
    | _ => simp

private theorem isContentEndless_eq (s : Strictness) (entries : List (Scalar × Value)) :
    isContentEndless s entries =
      (entries.lookup (.text "content")).any (isContentEndlessFrom s) := by
  induction entries with
  | nil => rfl
  | cons e entries ih =>
    obtain ⟨k, v⟩ := e
    rw [isContentEndless, List.lookup_cons]
    by_cases hk : k = .text "content"
    · subst hk
      simp
    · rw [if_neg hk, ih, beq_eq_false_iff_ne.mpr (Ne.symm hk)]

private theorem anyEndless_iff (items : List Value) :
    anyEndless .strict items = true ↔
      ∃ before v after, items = before ++ v :: after ∧ (∀ u ∈ before, findings u = []) ∧
        isEndless .strict v = true := by
  induction items with
  | nil => simp [anyEndless]
  | cons v rest ih =>
    rw [anyEndless, Bool.or_eq_true, Bool.and_eq_true, loadEntry_eq_judged, isOk_judged_strict, ih]
    constructor
    · rintro (hv | ⟨hclear, before, u, after, rfl, hbefore, hu⟩)
      · exact ⟨[], v, rest, rfl, nofun, hv⟩
      · refine ⟨v :: before, u, after, rfl, ?_, hu⟩
        rintro x (_ | ⟨_, hx⟩)
        · exact hclear
        · exact hbefore x hx
    · rintro ⟨before, u, after, he, hbefore, hu⟩
      cases before with
      | nil =>
        obtain ⟨rfl, -⟩ := List.cons.inj he
        exact .inl hu
      | cons x before =>
        obtain ⟨rfl, rfl⟩ := List.cons.inj he
        exact .inr ⟨hbefore v (by simp), before, u, after, rfl,
          fun y hy => hbefore y (by simp [hy]), hu⟩

private theorem isEndless_of_opens {entries : List (Scalar × Value)} {content : Value}
    (hopens : Opens entries content) (h : isContentEndlessFrom .strict content = true) :
    isEndless .strict (.mapping entries) = true := by
  rw [isEndless_mapping_iff, isContentEndless_eq, hopens.field]
  exact ⟨hopens.inside, h⟩

private theorem isEndless_of_returns {v : Value} (h : Returns v) : isEndless .strict v = true := by
  cases h with
  | entry hentry => simp [isEndless, hentry]
  | content hopens hcontent =>
    exact isEndless_of_opens hopens (by simp [isContentEndlessFrom, hcontent])

private theorem isEndless_of_enters {v u : Value} (h : Enters v u)
    (hu : isEndless .strict u = true) : isEndless .strict v = true := by
  obtain ⟨hopens, hbefore⟩ := h
  refine isEndless_of_opens hopens ?_
  rw [isContentEndlessFrom, anyEndless_iff]
  exact ⟨_, _, _, rfl, hbefore, hu⟩

private theorem endless_of_enters {v u : Value} (h : Enters v u) (hu : Endless u) : Endless v := by
  obtain ⟨x, hx, hreturns⟩ := hu
  exact ⟨x, .head h hx, hreturns⟩

private theorem sizeOf_lt_of_field {entries : List (Scalar × Value)} {items : List Value}
    {v : Value}
    (hfield : entries.lookup (.text "content") = some (.list items)) (hv : v ∈ items) :
    sizeOf v < sizeOf (Value.mapping entries) := by
  obtain ⟨front, back, rfl, -⟩ := List.lookup_eq_some_iff.mp hfield
  have hitem := List.sizeOf_lt_of_mem hv
  have hmem : (Scalar.text "content", Value.list items) ∈
      front ++ (.text "content", .list items) :: back := by
    simp
  have hentry := List.sizeOf_lt_of_mem hmem
  simp only [Prod.mk.sizeOf_spec, Value.list.sizeOf_spec] at hentry
  rw [Value.mapping.sizeOf_spec]
  omega

private theorem endless_of_isEndless (v : Value) (h : isEndless .strict v = true) : Endless v := by
  -- along the way of the load, which goes on in some item of the content
  match v with
  | .mapping entries =>
    rw [isEndless_mapping_iff, isContentEndless_eq, Option.any_eq_true] at h
    obtain ⟨hinside, c, hfield, hc⟩ := h
    cases c with
    | list items =>
      obtain ⟨before, u, after, rfl, hbefore, hu⟩ := (anyEndless_iff items).mp hc
      have hendless := endless_of_isEndless u hu
      exact endless_of_enters (.item ⟨hinside, hfield⟩ hbefore) hendless
    | again between unrolled =>
      rw [isContentEndlessFrom] at hc
      split at hc
      · next hlist => exact ⟨_, .refl, .content ⟨hinside, hfield⟩ hlist⟩
      · cases hc
    | scalar | pair | set | mapping => cases hc
  | .again between unrolled =>
    rw [isEndless] at h
    split at h
    · next hentry => exact ⟨_, .refl, .entry hentry⟩
    · cases h
termination_by sizeOf v
decreasing_by exact sizeOf_lt_of_field hfield (by simp)

/-- A strict load has no end exactly where its way leads back. -/
theorem isEndless_iff (v : Value) : isEndless .strict v = true ↔ Endless v := by
  constructor
  · exact endless_of_isEndless v
  · rintro ⟨u, hway, hreturns⟩
    induction hway using Relation.ReflTransGen.head_induction_on with
    | refl => exact isEndless_of_returns hreturns
    | head henters _ ih => exact isEndless_of_enters henters ih

/-- A document that is its own only entry. -/
example : (Yaml.parse "&a {type: doc, content: [*a]}").toOption.any (isEndless .strict) = true := by
  decide +kernel

mutual

theorem isEndless_toValue (s : Strictness) : (j : Json) → isEndless s j.toValue = false
  | .object fields => by
    rw [Json.toValue, isEndless, isContentEndless_entriesOf s fields]
    split <;> simp
  | .array _ => rfl
  | .null => rfl
  | .bool _ => rfl
  | .int _ => rfl
  | .float _ => rfl
  | .text _ => rfl

private theorem isContentEndless_entriesOf (s : Strictness) : (fields : List (String × Json)) →
    isContentEndless s (Json.entriesOf fields) = false
  | [] => rfl
  | (name, j) :: rest => by
    rw [Json.entriesOf, isContentEndless, isContentEndless_entriesOf s rest]
    split
    · exact isContentEndlessFrom_toValue s j
    · rfl

private theorem isContentEndlessFrom_toValue (s : Strictness) :
    (j : Json) → isContentEndlessFrom s j.toValue = false
  | .array items => by
    rw [Json.toValue, isContentEndlessFrom]
    exact anyEndless_valuesOf s items
  | .object _ => rfl
  | .null => rfl
  | .bool _ => rfl
  | .int _ => rfl
  | .float _ => rfl
  | .text _ => rfl

private theorem anyEndless_valuesOf (s : Strictness) : (items : List Json) →
    anyEndless s (Json.valuesOf items) = false
  | [] => rfl
  | j :: rest => by
    rw [Json.valuesOf, anyEndless, isEndless_toValue s j, anyEndless_valuesOf s rest]
    simp

end

end RichText.Node
