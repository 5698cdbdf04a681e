import RichText.Yaml.Token.Name
import RichText.Yaml.Token.Text

/-!
The token stream of a YAML text. A scalar or a collection becomes the key of a mapping only when its
colon is met, so that the place of a possible key is remembered, one on each level of flow
collections, and the tokens of the key are inserted there later.
-/

set_option autoImplicit false
set_option relaxedAutoImplicit false

namespace RichText.Yaml

/-- A place where a key may begin. A required key has to meet its colon. -/
structure PossibleKey where
  position : Nat
  required : Bool
  index : Nat
  line : Nat
  column : Nat
  deriving Repr

structure Stream where
  cursor : Cursor
  tokens : Array Token := #[]
  flowLevel : Nat := 0
  /-- The column of the innermost block collection, -1 outside of all. -/
  indent : Int := -1
  outerIndents : List Int := []
  keyAllowed : Bool := true
  keys : List (Nat × PossibleKey) := []
  deriving Repr

namespace Stream

def emit (s : Stream) (t : Token) : Stream := { s with tokens := s.tokens.push t }

def insert (s : Stream) (position : Nat) (t : Token) : Stream :=
  { s with tokens := s.tokens.insertIdxIfInBounds position t }

def inFlow (s : Stream) : Bool := s.flowLevel ≠ 0

def closeBlocks (column : Int) (s : Stream) : Stream :=
  go s s.outerIndents
where
  go (s : Stream) : List Int → Stream
    | [] => s
    | outer :: rest =>
      if column < s.indent then
        go { s.emit .blockEnd with indent := outer, outerIndents := rest } rest
      else s

def unwind (column : Int) (s : Stream) : Stream := if s.inFlow then s else s.closeBlocks column

def openBlock? (s : Stream) (column : Nat) : Option Stream :=
  if s.indent < column then
    some { s with indent := column, outerIndents := s.indent :: s.outerIndents }
  else none

/-- Forgets the possible key of the current level; a required one is missing its colon. -/
def dropKey (s : Stream) : Except Fault Stream :=
  match s.keys.lookup s.flowLevel with
  | none => .ok s
  | some k =>
    if k.required then .error .malformed
    else .ok { s with keys := s.keys.filter (·.1 ≠ s.flowLevel) }

def saveKey (s : Stream) : Except Fault Stream :=
  if !s.keyAllowed then .ok s
  else do
    let s ← s.dropKey
    let c := s.cursor
    let key : PossibleKey :=
      { position := s.tokens.size
        required := !s.inFlow && s.indent = c.column
        index := c.index, line := c.line, column := c.column }
    .ok { s with keys := (s.flowLevel, key) :: s.keys }

/-- A key is on one line and at most 1024 characters long. -/
def PossibleKey.isStale (k : PossibleKey) (c : Cursor) : Bool :=
  k.line ≠ c.line || 1024 < c.index - k.index

def dropStaleKeys (s : Stream) : Except Fault Stream :=
  if s.keys.any fun k => PossibleKey.isStale k.2 s.cursor && k.2.required then .error .malformed
  else .ok { s with keys := s.keys.filter fun k => !PossibleKey.isStale k.2 s.cursor }

/-- Skips blanks, comments and empty lines; a new line allows keys outside of flow collections. -/
def skipToToken (s : Stream) : Nat → Stream
  | 0 => s
  | steps + 1 =>
    let c := s.cursor.skipSpaces.skipComment
    match c.lineBreak? with
    | none => { s with cursor := c }
    | some (_, next) =>
      skipToToken { s with cursor := next, keyAllowed := s.keyAllowed || !s.inFlow } steps

def skipMark (s : Stream) : Stream :=
  if s.cursor.index = 0 && s.cursor.peek = some '\uFEFF' then { s with cursor := s.cursor.advance }
  else s

def finish (s : Stream) : Except Fault Stream := do
  let s ← (s.unwind (-1)).dropKey
  .ok (s.emit .finish)

def endDocument (s : Stream) : Except Fault Stream := do
  let s ← (s.unwind (-1)).dropKey
  .ok { s with keyAllowed := false }

def readDocumentMark (t : Token) (s : Stream) : Except Fault Stream := do
  let s ← s.endDocument
  .ok ({ s with cursor := s.cursor.advanceBy 3 }.emit t)

def openFlow (t : Token) (s : Stream) : Except Fault Stream := do
  let s ← s.saveKey
  let s := { s with flowLevel := s.flowLevel + 1, keyAllowed := true, cursor := s.cursor.advance }
  .ok (s.emit t)

def closeFlow (t : Token) (s : Stream) : Except Fault Stream := do
  let s ← s.dropKey
  if s.flowLevel = 0 then .error .malformed
  else
    let s := { s with
      flowLevel := s.flowLevel - 1, keyAllowed := false, cursor := s.cursor.advance }
    .ok (s.emit t)

def readFlowEntry (s : Stream) : Except Fault Stream := do
  let s ← { s with keyAllowed := true }.dropKey
  .ok ({ s with cursor := s.cursor.advance }.emit .flowEntry)

/-- Opens a block collection for an entry that begins here; it has to be allowed here. -/
def beginEntry (start : Token) (s : Stream) : Except Fault Stream :=
  if s.inFlow then .ok s
  else if !s.keyAllowed then .error .malformed
  else match s.openBlock? s.cursor.column with
    | none => .ok s
    | some s => .ok (s.emit start)

def readBlockEntry (s : Stream) : Except Fault Stream := do
  let s ← s.beginEntry .blockSequenceStart
  let s ← { s with keyAllowed := true }.dropKey
  .ok ({ s with cursor := s.cursor.advance }.emit .blockEntry)

def readKey (s : Stream) : Except Fault Stream := do
  let s ← s.beginEntry .blockMappingStart
  let s ← { s with keyAllowed := !s.inFlow }.dropKey
  .ok ({ s with cursor := s.cursor.advance }.emit .key)

/-- A colon turns the possible key of its level into a key; without one it follows a stated key. -/
def readValue (s : Stream) : Except Fault Stream := do
  let s ← match s.keys.lookup s.flowLevel with
    | some k =>
      let s := { s with keys := s.keys.filter (·.1 ≠ s.flowLevel), keyAllowed := false }
      let s := s.insert k.position .key
      if s.inFlow then .ok s
      else match s.openBlock? k.column with
        | none => .ok s
        | some s => .ok (s.insert k.position .blockMappingStart)
    | none =>
      let s ← s.beginEntry .blockMappingStart
      { s with keyAllowed := !s.inFlow }.dropKey
  .ok ({ s with cursor := s.cursor.advance }.emit .value)

def readKeyPart (read : Cursor → Except Fault (Token × Cursor)) (s : Stream) :
    Except Fault Stream := do
  let s ← s.saveKey
  let (t, next) ← read s.cursor
  .ok ({ s with keyAllowed := false, cursor := next }.emit t)

def readAlias (c : Cursor) : Except Fault (Token × Cursor) := do
  let (name, next) ← readAnchorName c
  .ok (.alias name, next)

def readAnchor (c : Cursor) : Except Fault (Token × Cursor) := do
  let (name, next) ← readAnchorName c
  .ok (.anchor name, next)

def readQuotedScalar (c : Cursor) : Except Fault (Token × Cursor) := do
  let (text, next) ← readQuoted c
  .ok (.scalar (String.ofList text) false, next)

def readBlockScalar (s : Stream) : Except Fault Stream := do
  let s ← { s with keyAllowed := true }.dropKey
  let (text, next) ← readBlock s.indent s.cursor
  .ok ({ s with cursor := next }.emit (.scalar (String.ofList text) false))

def readPlainScalar (s : Stream) : Except Fault Stream := do
  let s ← s.saveKey
  let p := readPlain s.inFlow s.indent s.cursor
  .ok ({ s with keyAllowed := p.lineEnded, cursor := p.next }.emit
    (.scalar (String.ofList p.text) true))

def beginsPlain (s : Stream) (ch : Char) : Bool :=
  if isBlank ch || isBreak ch then false
  else if !"-?:,[]\x7b\x7d#&*!|>'\"%@`".toList.contains ch then true
  else !endsToken (s.cursor.peekAt 1) && (ch = '-' || (!s.inFlow && (ch = '?' || ch = ':')))

def readToken (s : Stream) (ch : Char) : Except Fault Stream :=
  let c := s.cursor
  let spaced := endsToken (c.peekAt 1)
  if ch = '%' && c.column = 0 then do
    let s ← s.endDocument
    let (t, next) ← readDirective c
    .ok ({ s with cursor := next }.emit t)
  else if c.column = 0 && c.atDocumentMark then
    s.readDocumentMark (if ch = '-' then .documentStart else .documentEnd)
  else if ch = '[' then s.openFlow .flowSequenceStart
  else if ch = '{' then s.openFlow .flowMappingStart
  else if ch = ']' then s.closeFlow .flowSequenceEnd
  else if ch = '}' then s.closeFlow .flowMappingEnd
  else if ch = ',' then s.readFlowEntry
  else if ch = '-' && spaced then s.readBlockEntry
  else if ch = '?' && (s.inFlow || spaced) then s.readKey
  else if ch = ':' && (s.inFlow || spaced) then s.readValue
  else if ch = '*' then s.readKeyPart readAlias
  else if ch = '&' then s.readKeyPart readAnchor
  else if ch = '!' then s.readKeyPart readTag
  else if (ch = '|' || ch = '>') && !s.inFlow then s.readBlockScalar
  else if ch = '\'' || ch = '"' then s.readKeyPart readQuotedScalar
  else if s.beginsPlain ch then s.readPlainScalar
  else .error .malformed

/-- The tokens that nothing behind them can change: those in front of every possible key. -/
def settled (s : Stream) : List Token :=
  s.tokens.toList.take (s.keys.foldl (fun n k => min n k.2.position) s.tokens.size)

def step (s : Stream) : Except Fault (Stream × Bool) := do
  let s ← (s.skipToToken s.cursor.bound).dropStaleKeys
  let s := s.unwind s.cursor.column
  match s.cursor.peek with
  | none => do
    let s ← s.finish
    .ok (s, true)
  | some ch => do
    let s ← s.readToken ch
    .ok (s, false)

/-- All tokens up to the first fault; every step takes at least one character or is the last. -/
def readAll (s : Stream) : Nat → Tokens
  | 0 => { tokens := s.settled, fault := some .malformed }
  | steps + 1 =>
    match s.dropStaleKeys with
    | .error fault => { tokens := s.settled, fault := some fault }
    | .ok s => match s.step with
      | .error fault => { tokens := s.settled, fault := some fault }
      | .ok (s, true) => { tokens := s.tokens.toList }
      | .ok (s, false) => s.readAll steps

end Stream

/-- The tokens of a text; a character that no text may hold is refused first. -/
def Tokens.ofText (text : String) : Tokens :=
  if text.toList.all isAllowed then
    let s : Stream := { cursor := { rest := text.toList } }
    s.skipMark.readAll (s.cursor.bound + 1)
  else { tokens := [], fault := some .malformed }

end RichText.Yaml
