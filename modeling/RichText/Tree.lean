/-!
Trees of rich text. Six kinds of node: a document, paragraphs, two kinds of list, list items and
runs of text with marks. A content, a list of marks or an attribute that is absent is kept apart
from an empty one, although both mean the same.
-/

set_option autoImplicit false
set_option relaxedAutoImplicit false

namespace RichText

structure LinkAttributes where
  href : Option String := none
  className : Option String := none
  target : Option String := none
  deriving DecidableEq, Repr

inductive Mark
  | bold
  | italic
  | link (attributes : Option LinkAttributes)
  deriving DecidableEq, Repr

/-- The destination of a link, empty where there is none. -/
def LinkAttributes.destination (attributes : Option LinkAttributes) : String :=
  (attributes.bind LinkAttributes.href).getD ""

structure ListAttributes where
  start : Option Int := none
  deriving DecidableEq, Repr

/-- The ordinal of the first item of an ordered list, one where it is not given. -/
def ListAttributes.firstOrdinal (attributes : Option ListAttributes) : Int :=
  (attributes.bind ListAttributes.start).getD 1

inductive Node
  | doc (content : Option (List Node))
  | paragraph (content : Option (List Node))
  | bulletList (content : Option (List Node))
  | orderedList (attributes : Option ListAttributes) (content : Option (List Node))
  | listItem (content : Option (List Node))
  | text (value : String) (marks : Option (List Mark))
  deriving Repr

/-- The nodes below a node; absent is kept apart from empty. -/
abbrev Content := Option (List Node)

inductive Kind
  | doc
  | paragraph
  | bulletList
  | orderedList
  | listItem
  | text
  deriving DecidableEq, Repr

namespace Kind

def tag : Kind → String
  | .doc => "doc"
  | .paragraph => "paragraph"
  | .bulletList => "bulletList"
  | .orderedList => "orderedList"
  | .listItem => "listItem"
  | .text => "text"

def all : List Kind := [.doc, .paragraph, .bulletList, .orderedList, .listItem, .text]

def ofTag? (s : String) : Option Kind := all.find? fun k => k.tag = s

def title : Kind → String
  | .doc => "Document"
  | .paragraph => "Paragraph"
  | .bulletList => "BulletList"
  | .orderedList => "OrderedList"
  | .listItem => "ListItem"
  | .text => "Text"

end Kind

namespace Node

def kind : Node → Kind
  | .doc _ => .doc
  | .paragraph _ => .paragraph
  | .bulletList _ => .bulletList
  | .orderedList _ _ => .orderedList
  | .listItem _ => .listItem
  | .text _ _ => .text

def isListItem : Node → Bool
  | .listItem _ => true
  | _ => false

def content : Node → Content
  | .doc c => c
  | .paragraph c => c
  | .bulletList c => c
  | .orderedList _ c => c
  | .listItem c => c
  | .text _ _ => none

/-- The node with another content; a run of text stays as it is. -/
def withContent (c : Content) : Node → Node
  | .doc _ => .doc c
  | .paragraph _ => .paragraph c
  | .bulletList _ => .bulletList c
  | .orderedList a _ => .orderedList a c
  | .listItem _ => .listItem c
  | .text s m => .text s m

def children (n : Node) : List Node := n.content.getD []

mutual

def equal : Node → Node → Bool
  | .doc c, .doc d => equalContent c d
  | .paragraph c, .paragraph d => equalContent c d
  | .bulletList c, .bulletList d => equalContent c d
  | .orderedList a c, .orderedList b d => decide (a = b) && equalContent c d
  | .listItem c, .listItem d => equalContent c d
  | .text s m, .text t n => decide (s = t) && decide (m = n)
  | _, _ => false

def equalContent : Content → Content → Bool
  | none, none => true
  | some xs, some ys => equalNodes xs ys
  | _, _ => false

def equalNodes : List Node → List Node → Bool
  | [], [] => true
  | x :: xs, y :: ys => equal x y && equalNodes xs ys
  | _, _ => false

end

mutual

private theorem equal_iff : ∀ x y : Node, equal x y = true ↔ x = y
  | .doc c, y => by cases y <;> simp [equal, equalContent_iff c]
  | .paragraph c, y => by cases y <;> simp [equal, equalContent_iff c]
  | .bulletList c, y => by cases y <;> simp [equal, equalContent_iff c]
  | .orderedList a c, y => by cases y <;> simp [equal, equalContent_iff c]
  | .listItem c, y => by cases y <;> simp [equal, equalContent_iff c]
  | .text s m, y => by cases y <;> simp [equal]

private theorem equalContent_iff : ∀ c d : Content, equalContent c d = true ↔ c = d
  | none, d => by cases d <;> simp [equalContent]
  | some xs, d => by cases d <;> simp [equalContent, equalNodes_iff xs]

private theorem equalNodes_iff : ∀ xs ys : List Node, equalNodes xs ys = true ↔ xs = ys
  | [], ys => by cases ys <;> simp [equalNodes]
  | x :: xs, ys => by cases ys <;> simp [equalNodes, equal_iff x, equalNodes_iff xs]

end

instance : DecidableEq Node := fun x y => decidable_of_iff _ (equal_iff x y)

end Node

end RichText
