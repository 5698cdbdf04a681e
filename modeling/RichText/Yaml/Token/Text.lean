import RichText.Text.CodeUnit
import RichText.Yaml.Cursor
import RichText.Yaml.Fault

/-!
Reading scalars: quoted on one or more lines, as a literal or folded block, or plain. Every step
of a loop takes at least one character, which bounds the number of steps.
-/

set_option autoImplicit false
set_option relaxedAutoImplicit false

namespace RichText.Yaml

def readQuotedBreaks (c : Cursor) : Nat → Except Fault (List Char × Cursor)
  | 0 => .error .malformed
  | steps + 1 =>
    if c.atDocumentMark then .error .malformed
    else
      let next := (c.takeWhile isBlank).2
      match next.lineBreak? with
      | none => .ok ([], next)
      | some (b, next) => do
        let (more, next) ← readQuotedBreaks next steps
        .ok (b :: more, next)

def foldBreaks (first : Char) (more : List Char) : List Char :=
  if first ≠ '\n' then first :: more
  else if more.isEmpty then [' ']
  else more

/-- Blanks inside a quoted scalar: kept within a line, folded around line breaks. -/
def readQuotedBlanks (c : Cursor) : Except Fault (List Char × Cursor) :=
  let (blanks, next) := c.takeWhile isBlank
  if next.rest.isEmpty then .error .malformed
  else match next.lineBreak? with
    | none => .ok (blanks, next)
    | some (b, next) => do
      let (more, next) ← readQuotedBreaks next next.bound
      .ok (foldBreaks b more, next)

def escapedChar? : Char → Option Char
  | '0' => some '\x00'
  | 'a' => some '\x07'
  | 'b' => some '\x08'
  | 't' => some '\t'
  | '\t' => some '\t'
  | 'n' => some '\n'
  | 'v' => some '\x0b'
  | 'f' => some '\x0c'
  | 'r' => some '\r'
  | 'e' => some '\x1b'
  | ' ' => some ' '
  | '"' => some '"'
  | '\\' => some '\\'
  | '/' => some '/'
  | 'N' => some '\x85'
  | '_' => some '\xa0'
  | 'L' => some '\u2028'
  | 'P' => some '\u2029'
  | _ => none

def escapeWidth? : Char → Option Nat
  | 'x' => some 2
  | 'u' => some 4
  | 'U' => some 8
  | _ => none

/-- The character of a code; half of a surrogate pair has none. -/
def codeChar (n : Nat) : Except Fault Char :=
  if 0x80000000 ≤ n then .error (.value .hugeCodePoint)
  else if 0x110000 ≤ n then .error (.value .codePoint)
  else .ok (Text.unitChar n)

def readEscape (c : Cursor) : Except Fault (List Char × Cursor) :=
  match c.peek with
  | none => .error .malformed
  | some ch => match escapedChar? ch, escapeWidth? ch with
    | some e, _ => .ok ([e], c.advance)
    | none, some width =>
      let digits := c.advance.rest.take width
      match Text.hexValues? digits with
      | none => .error .malformed
      | some n =>
        if digits.length < width then .error .malformed
        else do
          let e ← codeChar n
          .ok ([e], c.advanceBy (width + 1))
    | none, none => match c.lineBreak? with
      | none => .error .malformed
      | some (_, next) => readQuotedBreaks next next.bound

def readQuotedFrom (double : Bool) (c : Cursor) : Nat → Except Fault (List Char × Cursor)
  | 0 => .error .malformed
  | steps + 1 =>
    match c.peek with
    | none => .error .malformed
    | some ch =>
      if !double && c.startsWith "''" then do
        let (more, next) ← readQuotedFrom double (c.advanceBy 2) steps
        .ok ('\'' :: more, next)
      else if ch = (if double then '"' else '\'') then .ok ([], c.advance)
      else if double && ch = '\\' then do
        let (e, next) ← readEscape c.advance
        let (more, next) ← readQuotedFrom double next steps
        .ok (e ++ more, next)
      else if isBlank ch || isBreak ch then do
        let (blanks, next) ← readQuotedBlanks c
        let (more, next) ← readQuotedFrom double next steps
        .ok (blanks ++ more, next)
      else do
        let (more, next) ← readQuotedFrom double c.advance steps
        .ok (ch :: more, next)

def readQuoted (c : Cursor) : Except Fault (List Char × Cursor) :=
  readQuotedFrom (c.peek = some '"') c.advance c.bound

/-- What becomes of the line breaks at the end of a block. -/
inductive Chomping
  | clip
  | strip
  | keep
  deriving DecidableEq, Repr

def chomping? : Option Char → Option Chomping
  | some '+' => some .keep
  | some '-' => some .strip
  | _ => none

def indentDigit? : Option Char → Option Nat
  | some ch => if ch.isDigit then some (ch.toNat - 48) else none
  | none => none

def readBlockHeader (c : Cursor) : Except Fault (Chomping × Option Nat × Cursor) := do
  let (chomping, digit, next) : Chomping × Option Nat × Cursor :=
    match chomping? c.peek, indentDigit? c.peek with
    | some k, _ => match indentDigit? c.advance.peek with
      | some n => (k, some n, c.advanceBy 2)
      | none => (k, none, c.advance)
    | none, some n => match chomping? c.advance.peek with
      | some k => (k, some n, c.advanceBy 2)
      | none => (.clip, some n, c.advance)
    | none, none => (.clip, none, c)
  if digit = some 0 || !endsWord next.peek then .error .malformed
  else
    let next := next.skipSpaces.skipComment
    if endsLine next.peek then .ok (chomping, digit, next.skipLineBreak) else .error .malformed

/-- The empty lines before the first line of a block, and the deepest column among their spaces. -/
def readBlockLead (c : Cursor) (deepest : Nat) : Nat → List Char × Nat × Cursor
  | 0 => ([], deepest, c)
  | steps + 1 =>
    match c.lineBreak? with
    | some (b, next) =>
      let (more, deepest, next) := readBlockLead next deepest steps
      (b :: more, deepest, next)
    | none =>
      if c.peek = some ' ' then
        let next := c.advance
        readBlockLead next (max deepest next.column) steps
      else ([], deepest, c)

def skipIndent (c : Cursor) (indent : Nat) : Cursor :=
  c.advanceBy (min (indent - c.column) (c.takeWhile (· = ' ')).1.length)

def readBlockBreaks (indent : Nat) (c : Cursor) : Nat → List Char × Cursor
  | 0 => ([], c)
  | steps + 1 =>
    let next := skipIndent c indent
    match next.lineBreak? with
    | none => ([], next)
    | some (b, next) =>
      let (more, next) := readBlockBreaks indent next steps
      (b :: more, next)

def Chomping.tail (k : Chomping) (lineBreak : Option Char) (breaks : List Char) : List Char :=
  match k with
  | .strip => []
  | .clip => lineBreak.toList
  | .keep => lineBreak.toList ++ breaks

/-- The lines of a block behind the given empty lines. In a folded block a line feed between two
lines that start with no blank becomes a space. -/
def readBlockLines (folded : Bool) (chomping : Chomping) (indent : Nat) (breaks : List Char)
    (c : Cursor) : Nat → List Char × Cursor
  | 0 => ([], c)
  | steps + 1 =>
    if c.column = indent && !c.rest.isEmpty then
      let startsDark := !c.peek.any isBlank
      let (line, next) := c.takeWhile fun ch => !isBreak ch
      let (lineBreak, next) : Option Char × Cursor := match next.lineBreak? with
        | some (b, next) => (some b, next)
        | none => (none, next)
      let (more, next) := readBlockBreaks indent next next.bound
      if next.column = indent && !next.rest.isEmpty then
        let joint :=
          if folded && lineBreak = some '\n' && startsDark && !next.peek.any isBlank then
            if more.isEmpty then [' '] else []
          else lineBreak.toList
        let (text, next) := readBlockLines folded chomping indent more next steps
        (breaks ++ line ++ joint ++ text, next)
      else (breaks ++ line ++ chomping.tail lineBreak more, next)
    else ([] ++ chomping.tail none breaks, c)

/-- A literal or folded block inside a collection at the given indentation. -/
def readBlock (outer : Int) (c : Cursor) : Except Fault (List Char × Cursor) := do
  let folded := c.peek = some '>'
  let (chomping, digit, next) ← readBlockHeader c.advance
  let least := (max 1 (outer + 1)).toNat
  let (indent, breaks, next) : Nat × List Char × Cursor := match digit with
    | some n =>
      let indent := least + n - 1
      let (breaks, next) := readBlockBreaks indent next next.bound
      (indent, breaks, next)
    | none =>
      let (breaks, deepest, next) := readBlockLead next 0 next.bound
      (max least deepest, breaks, next)
  .ok (readBlockLines folded chomping indent breaks next next.bound)

def plainGoesOn (inFlow : Bool) (rest : List Char) : Bool :=
  match rest with
  | [] => false
  | ch :: after =>
    !(isBlank ch || isBreak ch || (inFlow && (isFlowMark ch || ch = '?'))
      || (ch = ':' && (endsToken after.head? || (inFlow && after.head?.any isFlowMark))))

def plainRun (inFlow : Bool) : List Char → List Char
  | [] => []
  | ch :: rest => if plainGoesOn inFlow (ch :: rest) then ch :: plainRun inFlow rest else []

/-- The empty lines and the indentation inside a plain scalar; nothing at a document mark. -/
def readPlainBreaks (c : Cursor) : Nat → Option (List Char) × Cursor
  | 0 => (some [], c)
  | steps + 1 =>
    match c.lineBreak? with
    | some (b, next) =>
      if next.atDocumentMark then (none, next)
      else
        let (more, next) := readPlainBreaks next steps
        (more.map (b :: ·), next)
    | none => if c.peek = some ' ' then readPlainBreaks c.advance steps else (some [], c)

/-- The blanks inside a plain scalar: what they are folded to, whether a line ended, and the place
behind them. -/
def readPlainBlanks (c : Cursor) : List Char × Bool × Cursor :=
  let (spaces, next) := c.takeWhile (· = ' ')
  match next.lineBreak? with
  | none => (spaces, false, next)
  | some (b, next) =>
    if next.atDocumentMark then ([], true, next)
    else match readPlainBreaks next next.bound with
      | (none, next) => ([], true, next)
      | (some more, next) => (foldBreaks b more, true, next)

structure PlainText where
  text : List Char
  /-- Whether the place behind the text is on a line of its own. -/
  lineEnded : Bool
  next : Cursor

/-- A plain scalar; outside of flow collections its lines are indented. -/
def readPlainFrom (inFlow : Bool) (indent : Int) (blanks : List Char) (lineEnded : Bool)
    (c : Cursor) : Nat → PlainText
  | 0 => ⟨[], lineEnded, c⟩
  | steps + 1 =>
    let run := plainRun inFlow c.rest
    if c.peek = some '#' || run.isEmpty then ⟨[], lineEnded, c⟩
    else
      let (spaces, ended, next) := readPlainBlanks (c.advanceBy run.length)
      if spaces.isEmpty || next.peek = some '#'
          || (!inFlow && decide ((next.column : Int) < indent))
      then ⟨blanks ++ run, ended, next⟩
      else
        let more := readPlainFrom inFlow indent spaces ended next steps
        ⟨blanks ++ run ++ more.text, more.lineEnded, more.next⟩

def readPlain (inFlow : Bool) (outer : Int) (c : Cursor) : PlainText :=
  readPlainFrom inFlow (outer + 1) [] false c c.bound

end RichText.Yaml
