import RichText.Json
import RichText.Tree

/-!
The stored form of a tree as a JSON document. Absent contents, marks and attributes stay out of it,
so that reading it back tells absent from empty.
-/

set_option autoImplicit false
set_option relaxedAutoImplicit false

namespace RichText

def presentTexts (fields : List (String × Option String)) : List (String × Json) :=
  fields.filterMap fun f => f.2.map fun s => (f.1, .text s)

def LinkAttributes.store (a : LinkAttributes) : Json :=
  .object (presentTexts [("href", a.href), ("class", a.className), ("target", a.target)])

def ListAttributes.store (a : ListAttributes) : Json :=
  .object (match a.start with
    | none => []
    | some n => [("start", .int n)])

def Mark.tag : Mark → String
  | .bold => "bold"
  | .italic => "italic"
  | .link _ => "link"

def Mark.store (m : Mark) : Json :=
  .object (("type", .text m.tag) :: match m with
    | .link (some a) => [("attrs", a.store)]
    | _ => [])

namespace Node

def tagField (k : Kind) : String × Json := ("type", .text k.tag)

mutual

def store : Node → Json
  | .doc c => .object (tagField .doc :: storeContent c)
  | .paragraph c => .object (tagField .paragraph :: storeContent c)
  | .bulletList c => .object (tagField .bulletList :: storeContent c)
  | .orderedList none c => .object (tagField .orderedList :: storeContent c)
  | .orderedList (some a) c =>
    .object (tagField .orderedList :: ("attrs", a.store) :: storeContent c)
  | .listItem c => .object (tagField .listItem :: storeContent c)
  | .text s none => .object [tagField .text, ("text", .text s)]
  | .text s (some marks) =>
    .object [tagField .text, ("text", .text s), ("marks", .array (marks.map Mark.store))]

def storeContent : Content → List (String × Json)
  | none => []
  | some nodes => [("content", .array (storeNodes nodes))]

def storeNodes : List Node → List Json
  | [] => []
  | n :: rest => n.store :: storeNodes rest

end

end Node

/-- A run of text of a kind outside the six: it is written like a run of text without marks, and has
no stored form. -/
structure ForeignText where
  kindName : String
  value : String
  deriving DecidableEq, Repr

namespace ForeignText

/-- A name of a kind holds no null character. -/
def isKindName (name : String) : Bool := !name.toList.contains '\x00'

def nameMessage : String := "type name must not contain null characters"

def asText (t : ForeignText) : Node := .text t.value none

def storeMessage (t : ForeignText) : String :=
  s!"Unknown node type for serialization: {t.kindName}"

end ForeignText

end RichText
