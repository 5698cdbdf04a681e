import RichText.Text.Printable

/-!
Quoted literals of text and bytes. The quote is a single one unless the text holds single quotes
and no double ones; the backslash, the quote itself and every character without a visible form are
written as escapes, so that the literal is one visible line.
-/

set_option autoImplicit false
set_option relaxedAutoImplicit false

namespace RichText.Text

def hexDigit (n : Nat) : Char :=
  if n < 10 then Char.ofNat (48 + n) else Char.ofNat (87 + n)

def hexDigits : Nat → Nat → List Char
  | 0, _ => []
  | width + 1, n => hexDigits width (n / 16) ++ [hexDigit (n % 16)]

def quoteOf (cs : List Char) : Char :=
  if cs.contains '\'' && !cs.contains '"' then '"' else '\''

def quotedChar (quote c : Char) : List Char :=
  if c = quote || c = '\\' then ['\\', c]
  else if c = '\t' then ['\\', 't']
  else if c = '\n' then ['\\', 'n']
  else if c = '\r' then ['\\', 'r']
  else if c.toNat < 32 || c.toNat = 127 then '\\' :: 'x' :: hexDigits 2 c.toNat
  else if c.toNat < 127 || isPrintable c then [c]
  else if c.toNat < 256 then '\\' :: 'x' :: hexDigits 2 c.toNat
  else if c.toNat < 65536 then '\\' :: 'u' :: hexDigits 4 c.toNat
  else '\\' :: 'U' :: hexDigits 8 c.toNat

def quoted (s : String) : String :=
  let q := quoteOf s.toList
  String.ofList (q :: s.toList.flatMap (quotedChar q) ++ [q])

/-- The form of a byte between two `quote`s; bytes above ASCII are always escaped. -/
def quotedByte (quote : Char) (b : UInt8) : List Char :=
  if b.toNat < 127 then quotedChar quote (Char.ofNat b.toNat)
  else '\\' :: 'x' :: hexDigits 2 b.toNat

/-- A literal of bytes carries the mark `b`. -/
def quotedBytes (bs : List UInt8) : String :=
  let q := quoteOf (bs.map fun b => Char.ofNat b.toNat)
  String.ofList ('b' :: q :: bs.flatMap (quotedByte q) ++ [q])

end RichText.Text
