import RichText.Text.CodeUnit
import RichText.Text.Digits
import RichText.Yaml.Cursor
import RichText.Yaml.Fault
import RichText.Yaml.Token

/-!
Reading anchors, tags and directives.
-/

set_option autoImplicit false
set_option relaxedAutoImplicit false

namespace RichText.Yaml

def readAnchorName (c : Cursor) : Except Fault (String × Cursor) :=
  let (name, next) := c.advance.takeWhile isWord
  if name.isEmpty then .error .malformed
  else if endsToken next.peek || next.peek.any ("?:,]\x7d%@`".toList.contains ·) then
    .ok (String.ofList name, next)
  else .error .malformed

def readEscapes (c : Cursor) : Nat → Except Fault (List UInt8 × Cursor)
  | 0 => .error .malformed
  | steps + 1 =>
    match c.rest with
    | '%' :: a :: b :: _ =>
      match Text.hexValues? [a, b] with
      | none => .error .malformed
      | some n => do
        let (bytes, next) ← readEscapes (c.advanceBy 3) steps
        .ok (n.toUInt8 :: bytes, next)
    | '%' :: _ => .error .malformed
    | _ => .ok ([], c)

def readAddressFrom (c : Cursor) : Nat → Except Fault (List Char × Cursor)
  | 0 => .error .malformed
  | steps + 1 =>
    match c.peek with
    | some '%' => do
      let (bytes, next) ← readEscapes c c.bound
      match String.fromUTF8? ⟨bytes.toArray⟩ with
      | none => .error .malformed
      | some s =>
        let (more, next) ← readAddressFrom next steps
        .ok (s.toList ++ more, next)
    | some ch =>
      if isAddress ch then do
        let (more, next) ← readAddressFrom c.advance steps
        .ok (ch :: more, next)
      else .ok ([], c)
    | none => .ok ([], c)

def readAddress (c : Cursor) : Except Fault (String × Cursor) := do
  let (address, next) ← readAddressFrom c c.bound
  if next.index = c.index then .error .malformed else .ok (String.ofList address, next)

/-- A handle: an exclamation mark, or a word between two of them. -/
def readHandle (c : Cursor) : Except Fault (String × Cursor) :=
  if c.peek ≠ some '!' then .error .malformed
  else if c.peekAt 1 = some ' ' then .ok ("!", c.advance)
  else
    let (name, next) := c.advance.takeWhile isWord
    if next.peek = some '!' then .ok (String.ofList ('!' :: name ++ ['!']), next.advance)
    else .error .malformed

def hasSecondMark (c : Cursor) : Bool :=
  (c.advance.rest.takeWhile fun ch => !(isBreak ch || ch = ' ')).contains '!'

/-- A tag: verbatim between angle brackets, the lone exclamation mark, or a handle with a suffix. -/
def readTag (c : Cursor) : Except Fault (Token × Cursor) := do
  let (handle, suffix, next) ←
    match c.peekAt 1 with
    | some '<' => do
      let (address, next) ← readAddress (c.advanceBy 2)
      if next.peek = some '>' then .ok (none, address, next.advance) else .error .malformed
    | ch =>
      if endsToken ch then .ok (none, "!", c.advance)
      else do
        let (handle, next) ← if hasSecondMark c then readHandle c else .ok ("!", c.advance)
        let (suffix, next) ← readAddress next
        .ok (some handle, suffix, next)
  if endsWord next.peek then .ok (.tag handle suffix, next) else .error .malformed

def readNumber (c : Cursor) : Except Fault (Nat × Cursor) :=
  let (digits, next) := c.takeWhile Char.isDigit
  if digits.isEmpty then .error .malformed else .ok (Text.digitsValue digits, next)

def readVersion (c : Cursor) : Except Fault (Token × Cursor) := do
  let (major, next) ← readNumber c.skipSpaces
  if next.peek ≠ some '.' then .error .malformed
  else
    let (_, next) ← readNumber next.advance
    if endsWord next.peek then .ok (.version major, next) else .error .malformed

def readTagHandle (c : Cursor) : Except Fault (Token × Cursor) := do
  let (handle, next) ← readHandle c.skipSpaces
  if next.peek ≠ some ' ' then .error .malformed
  else
    let (address, next) ← readAddress next.skipSpaces
    if endsWord next.peek then .ok (.tagHandle handle address, next) else .error .malformed

/-- A directive with its line; unknown ones are skipped. -/
def readDirective (c : Cursor) : Except Fault (Token × Cursor) := do
  let (name, next) := c.advance.takeWhile isWord
  if name.isEmpty || !endsWord next.peek then .error .malformed
  else
    let (token, next) ←
      if name = "YAML".toList then readVersion next
      else if name = "TAG".toList then readTagHandle next
      else .ok (.otherDirective, (next.takeWhile fun ch => !isBreak ch).2)
    let next := next.skipSpaces.skipComment
    if endsLine next.peek then .ok (token, next.skipLineBreak) else .error .malformed

end RichText.Yaml
