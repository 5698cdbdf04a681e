import RichText.Tree

/-!
Writing a tree in a markup dialect. A dialect says how text is escaped, what a mark wraps around
text, what stands before a list item and around a list; the walk through the tree is the same for
all dialects. Entries of a list that are no list items are not written but reported.
-/

set_option autoImplicit false
set_option relaxedAutoImplicit false

namespace RichText

/-- Written text with the kinds of the list entries that were left out, in document order. -/
structure Rendering where
  text : List Char
  skipped : List Kind
  deriving DecidableEq, Repr

namespace Rendering

def empty : Rendering := ⟨[], []⟩

def append (a b : Rendering) : Rendering := ⟨a.text ++ b.text, a.skipped ++ b.skipped⟩

instance : Append Rendering := ⟨append⟩

def ofText (text : List Char) : Rendering := ⟨text, []⟩

def skip (k : Kind) : Rendering := ⟨[], [k]⟩

def mapText (f : List Char → List Char) (r : Rendering) : Rendering := ⟨f r.text, r.skipped⟩

end Rendering

inductive Marker
  | bullet
  | ordinal (n : Int)
  deriving DecidableEq, Repr

def Marker.next : Marker → Marker
  | .bullet => .bullet
  | .ordinal n => .ordinal (n + 1)

structure Dialect where
  escape : List Char → List Char
  wrap : Mark → List Char → List Char
  itemStart : Marker → List Char
  /-- The form of a list with the given first marker around the lines of its items. -/
  frame : Marker → List Char → List Char

def dropLineBreaks (cs : List Char) : List Char :=
  (cs.reverse.dropWhile (· = '\n')).reverse

namespace Dialect

/-- The marks wrap the text in their order, the first one innermost. -/
def applyMarks (d : Dialect) (marks : List Mark) (text : List Char) : List Char :=
  marks.foldl (fun t m => d.wrap m t) text

theorem applyMarks_cons (d : Dialect) (m : Mark) (marks : List Mark) (text : List Char) :
    d.applyMarks (m :: marks) text = d.applyMarks marks (d.wrap m text) := rfl

theorem applyMarks_append (d : Dialect) (marks others : List Mark) (text : List Char) :
    d.applyMarks (marks ++ others) text = d.applyMarks others (d.applyMarks marks text) :=
  List.foldl_append

def run (d : Dialect) (value : String) (marks : Option (List Mark)) : List Char :=
  d.applyMarks (marks.getD []) (d.escape value.toList)

def line (d : Dialect) (m : Marker) (body : List Char) : List Char :=
  d.itemStart m ++ dropLineBreaks body ++ ['\n']

/-- A paragraph without nodes is a lone line break; any other ends in a blank line. -/
def paragraph (content : Content) (body : Rendering) : Rendering :=
  if (content.getD []).isEmpty then .ofText ['\n'] else body.mapText (· ++ ['\n', '\n'])

mutual

def render (d : Dialect) : Node → Rendering
  | .doc c => renderContent d c
  | .paragraph c => paragraph c (renderContent d c)
  | .bulletList c => (renderList d .bullet c).mapText (d.frame .bullet)
  | .orderedList a c =>
    let first := Marker.ordinal (ListAttributes.firstOrdinal a)
    (renderList d first c).mapText (d.frame first)
  | .listItem c => (renderContent d c).mapText (d.line .bullet)
  | .text value marks => .ofText (d.run value marks)

def renderContent (d : Dialect) : Content → Rendering
  | none => .empty
  | some nodes => renderNodes d nodes

def renderNodes (d : Dialect) : List Node → Rendering
  | [] => .empty
  | n :: rest => render d n ++ renderNodes d rest

def renderList (d : Dialect) (m : Marker) : Content → Rendering
  | none => .empty
  | some nodes => renderItems d m nodes

/-- The lines of the list items; only they take an ordinal. -/
def renderItems (d : Dialect) (m : Marker) : List Node → Rendering
  | [] => .empty
  | .listItem c :: rest =>
    (renderContent d c).mapText (d.line m) ++ renderItems d m.next rest
  | n :: rest => .skip n.kind ++ renderItems d m rest

end

theorem renderItems_cons (d : Dialect) (m : Marker) (n : Node) (rest : List Node) :
    d.renderItems m (n :: rest) =
      if n.kind = .listItem then
        (d.renderContent n.content).mapText (d.line m) ++ d.renderItems m.next rest
      else .skip n.kind ++ d.renderItems m rest := by
  cases n <;> rfl

end Dialect

end RichText
