import RichText.Tree.Draft

/-!
Editing a draft at an address, the list of positions from the root down.
-/

set_option autoImplicit false
set_option relaxedAutoImplicit false

namespace RichText

inductive EditError
  | noField (kind : Kind) (name : String)
  | absentContent
  | absentDeletion
  | noChild
  | noDeletion
  deriving DecidableEq, Repr

def EditError.message : EditError → String
  | .noField kind name => s!"'{kind.title}' object has no attribute '{name}'"
  | .absentContent => "'NoneType' object is not subscriptable"
  | .absentDeletion => "'NoneType' object does not support item deletion"
  | .noChild => "list index out of range"
  | .noDeletion => "list assignment index out of range"

namespace Draft

abbrev Address := List Int

/-- The place of a position among some children; a negative one counts from their end. -/
def place? (position : Int) (count : Nat) : Option Nat :=
  let i := if position < 0 then position + count else position
  if 0 ≤ i && i < count then some i.toNat else none

def content : Draft → Except EditError (Option (List Draft))
  | .leaf n => .error (.noField n.kind "content")
  | .branch _ c => .ok c

/-- Gives a draft a content, and a place for it. -/
def withContent (c : Option (List Draft)) (d : Draft) : Draft := .branch d.label c

def child (d : Draft) (position : Int) : Except EditError (List Draft × Nat × Draft) := do
  match ← d.content with
  | none => .error .absentContent
  | some children => match place? position children.length with
    | none => .error .noChild
    | some i => match children[i]? with
      | none => .error .noChild
      | some c => .ok (children, i, c)

def descendant : Address → Draft → Except EditError Draft
  | [], d => .ok d
  | position :: rest, d => do
    let (_, _, c) ← d.child position
    descendant rest c

def modifyAt (f : Draft → Except EditError Draft) : Address → Draft → Except EditError Draft
  | [], d => f d
  | position :: rest, d => do
    let (children, i, c) ← d.child position
    let c ← modifyAt f rest c
    .ok (d.withContent (some (children.set i c)))

/-- Adds a draft behind the others; an absent content becomes a list. -/
def appendChild (c d : Draft) : Except EditError Draft := do
  let content ← d.content
  .ok (d.withContent (some (content.getD [] ++ [c])))

def removeChild (position : Int) (d : Draft) : Except EditError Draft := do
  match ← d.content with
  | none => .error .absentDeletion
  | some children => match place? position children.length with
    | none => .error .noDeletion
    | some i => .ok (d.withContent (some (children.eraseIdx i)))

/-- Sets the text of a run of text; any other node stays as it is. -/
def setText (value : String) (d : Draft) : Draft :=
  match d.label with
  | .text _ marks => d.withLabel (.text value marks)
  | _ => d

/-- Adds a mark outside the others; absent marks become a list. -/
def addMark (m : Mark) (d : Draft) : Except EditError Draft :=
  match d.label with
  | .text value marks => .ok (d.withLabel (.text value (some (marks.getD [] ++ [m]))))
  | n => .error (.noField n.kind "marks")

def setListAttributes (a : Option ListAttributes) (d : Draft) : Except EditError Draft :=
  match d.label with
  | .orderedList _ c => .ok (d.withLabel (.orderedList a c))
  | n => .error (.noField n.kind "start")

end Draft

end RichText
