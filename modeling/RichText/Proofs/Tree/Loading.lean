import RichText.Tree.Load

/-!
Laws of loading. A load goes on behind a load that succeeds and adds its warnings, and a mapping is
loaded by the kind that it states, each kind with its own fields.
-/

set_option autoImplicit false
set_option relaxedAutoImplicit false

namespace RichText

namespace Loading

variable {α β γ : Type}

@[simp] theorem ok_bind (a : α) (f : α → Loading β) : (Loading.ok a >>= f) = f a := rfl

theorem bind_def (x : Loading α) (f : α → Loading β) : x >>= f = x.andThen f := rfl

private theorem bind_bind (x : Loading α) (f : α → Loading β) (g : β → Loading γ) :
    (x >>= f) >>= g = x >>= fun a => f a >>= g := by
  obtain ⟨warnings, outcome⟩ := x
  cases outcome with
  | error e => rfl
  | ok a =>
    simp only [bind_def, andThen]
    cases (f a).outcome <;> simp [List.append_assoc]

end Loading

namespace Mark

inductive Kind
  | bold
  | italic
  | link

def statedKind? : Value → Option Kind
  | .text "bold" => some .bold
  | .text "italic" => some .italic
  | .text "link" => some .link
  | _ => none

def loadKind (entries : List (Scalar × Value)) : Kind → Loading Mark
  | .bold => .ok .bold
  | .italic => .ok .italic
  | .link => loadLink entries

theorem load_mapping (s : Strictness) (entries : List (Scalar × Value)) :
    load s (.mapping entries) = match statedKind? (statedType entries) with
      | none => s.reject (.unknownMark (statedType entries)) (.unknownMark (statedType entries))
      | some k => loadKind entries k >>= fun m => .ok (some m) := by
  rw [load]
  split
  next h => rw [h]; rfl
  next h => rw [h]; rfl
  next h => rw [h]; rfl
  next hbold hitalic hlink =>
    have hnone : statedKind? (statedType entries) = none := by
      unfold statedKind?
      split <;> first | contradiction | rfl
    rw [hnone]

end Mark

@[simp] theorem Kind.ofTag?_tag (k : Kind) : Kind.ofTag? k.tag = some k := by
  cases k <;> decide

namespace Node

def loadKind (s : Strictness) (entries : List (Scalar × Value)) : Kind → Loading Node
  | .doc => loadContent s entries >>= fun c => .ok (.doc c)
  | .paragraph => loadContent s entries >>= fun c => .ok (.paragraph c)
  | .bulletList => loadContent s entries >>= fun c => .ok (.bulletList c)
  | .orderedList => loadListAttributes entries >>= fun a =>
    loadContent s entries >>= fun c => .ok (.orderedList a c)
  | .listItem => loadContent s entries >>= fun c => .ok (.listItem c)
  | .text => loadText s entries

theorem loadEntry_mapping (s : Strictness) (entries : List (Scalar × Value)) :
    loadEntry s (.mapping entries) =
      if (statedType entries).isFalsy then s.reject .missingType .missingType
      else match statedKind? (statedType entries) with
        | none => s.reject (.unknownNode (statedType entries)) (.unknownNode (statedType entries))
        | some k => loadKind s entries k >>= fun n => .ok (some n) := by
  rw [loadEntry]
  split
  · rfl
  · cases statedKind? (statedType entries) with
    | none => rfl
    | some k => cases k <;> simp only [loadKind, Loading.bind_bind, Loading.ok_bind]

def root (v : Value) : Option Node → Loading Node
  | some n => .ok n
  | none => match v.resolved with
    | .mapping entries => .fail (.rootDropped (statedType entries))
    | _ => .fail (.rootDropped .null)

theorem load_eq_root (s : Strictness) (v : Value) : load s v = loadEntry s v >>= root v := by
  rw [load]
  refine bind_congr ?_
  intro m
  cases m <;> rfl

theorem root_none_ne_ok (v : Value) (t : Node) : root v none ≠ .ok t := by
  rw [root]
  split <;> nofun

end Node

end RichText
