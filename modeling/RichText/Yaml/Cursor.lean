import RichText.Yaml.Character

/-!
A place in a YAML text: what follows it, its index, its line and its column. A byte order mark takes
no column.
-/

set_option autoImplicit false
set_option relaxedAutoImplicit false

namespace RichText.Yaml

structure Cursor where
  rest : List Char
  index : Nat := 0
  line : Nat := 0
  column : Nat := 0
  deriving Repr

namespace Cursor

def peek (c : Cursor) : Option Char := c.rest.head?

def peekAt (c : Cursor) (k : Nat) : Option Char := c.rest[k]?

def startsWith (c : Cursor) (s : String) : Bool := s.toList.isPrefixOf c.rest

/-- One character further; a carriage return in front of a line feed ends no line. -/
def advance (c : Cursor) : Cursor :=
  match c.rest with
  | [] => c
  | ch :: rest =>
    if isBreak ch && !(ch = '\r' && rest.head? = some '\n') then
      { rest, index := c.index + 1, line := c.line + 1, column := 0 }
    else
      { rest, index := c.index + 1, line := c.line
        column := if ch = '\uFEFF' then c.column else c.column + 1 }

def advanceBy (c : Cursor) : Nat → Cursor
  | 0 => c
  | n + 1 => c.advance.advanceBy n

def takeWhile (p : Char → Bool) (c : Cursor) : List Char × Cursor :=
  let run := c.rest.takeWhile p
  (run, c.advanceBy run.length)

def skipSpaces (c : Cursor) : Cursor := (c.takeWhile (· = ' ')).2

def skipComment (c : Cursor) : Cursor :=
  if c.peek = some '#' then (c.takeWhile fun ch => !isBreak ch).2 else c

/-- The line break at the cursor, normalised, and the place behind it. Breaks of one line become
line feeds; the separators of lines and paragraphs stay. -/
def lineBreak? (c : Cursor) : Option (Char × Cursor) :=
  match c.peek with
  | none => none
  | some ch =>
    if ch = '\u2028' || ch = '\u2029' then some (ch, c.advance)
    else if c.startsWith "\r\n" then some ('\n', c.advanceBy 2)
    else if isBreak ch then some ('\n', c.advance)
    else none

def skipLineBreak (c : Cursor) : Cursor :=
  match c.lineBreak? with
  | some (_, next) => next
  | none => c

def atDocumentMark (c : Cursor) : Bool :=
  (c.startsWith "---" || c.startsWith "...") && endsToken (c.peekAt 3)

def bound (c : Cursor) : Nat := c.rest.length + 1

end Cursor

end RichText.Yaml
