import RichText.Json
import RichText.Text.CodeUnit
import RichText.Text.Digits

/-!
The tokens of a JSON text, each with the number of characters before it. A text or a character that
is no token ends the list with its fault.
-/

set_option autoImplicit false
set_option relaxedAutoImplicit false

namespace RichText.Json

inductive Reason
  | byteOrderMark
  | expectedValue
  | expectedName
  | expectedColon
  | expectedComma
  | extraData
  | unterminatedText
  | controlCharacter
  | badEscape
  | badUnicodeEscape
  deriving DecidableEq, Repr

structure Fault where
  reason : Reason
  offset : Nat
  deriving DecidableEq, Repr

inductive Token
  | openArray
  | closeArray
  | openObject
  | closeObject
  | comma
  | colon
  | text (s : String)
  | literal (j : Json)
  | broken (fault : Fault)
  | unknown
  | finish
  deriving Repr

structure Placed where
  offset : Nat
  token : Token
  deriving Repr

def isSpace (c : Char) : Bool := c = ' ' || c = '\t' || c = '\n' || c = '\r'

def simpleEscape? : Char → Option Char
  | '"' => some '"'
  | '\\' => some '\\'
  | '/' => some '/'
  | 'b' => some '\x08'
  | 'f' => some '\x0c'
  | 'n' => some '\n'
  | 'r' => some '\r'
  | 't' => some '\t'
  | _ => none

/-- Reads a text behind its opening quote at `start`, from the character at `offset` on: the text
and how many characters it takes with its closing quote. A code unit needs a character behind its
four digits. -/
def readText (start offset : Nat) : List Char → Except Fault (List Char × Nat)
  | [] => .error ⟨.unterminatedText, start⟩
  | '"' :: _ => .ok ([], 1)
  | ['\\'] => .error ⟨.unterminatedText, start⟩
  | '\\' :: 'u' :: a :: b :: c :: d :: '\\' :: 'u' :: e :: f :: g :: h :: x :: rest =>
    match Text.hexValues? [a, b, c, d], Text.hexValues? [e, f, g, h] with
    | none, _ => .error ⟨.badUnicodeEscape, offset + 1⟩
    | some n, none =>
      if 0xD800 ≤ n && n ≤ 0xDBFF then .error ⟨.badUnicodeEscape, offset + 7⟩
      else do
        let (t, size) ← readText start (offset + 6) ('\\' :: 'u' :: e :: f :: g :: h :: x :: rest)
        .ok (Text.unitChar n :: t, size + 6)
    | some n, some m => match Text.pairChar? n m with
      | some p => do
        let (t, size) ← readText start (offset + 12) (x :: rest)
        .ok (p :: t, size + 12)
      | none => do
        let (t, size) ← readText start (offset + 6) ('\\' :: 'u' :: e :: f :: g :: h :: x :: rest)
        .ok (Text.unitChar n :: t, size + 6)
  | '\\' :: 'u' :: a :: b :: c :: d :: x :: rest =>
    match Text.hexValues? [a, b, c, d] with
    | none => .error ⟨.badUnicodeEscape, offset + 1⟩
    | some n => do
      let (t, size) ← readText start (offset + 6) (x :: rest)
      .ok (Text.unitChar n :: t, size + 6)
  | '\\' :: 'u' :: _ => .error ⟨.badUnicodeEscape, offset + 1⟩
  | '\\' :: c :: rest => match simpleEscape? c with
    | none => .error ⟨.badEscape, offset⟩
    | some e => do
      let (t, size) ← readText start (offset + 2) rest
      .ok (e :: t, size + 2)
  | c :: rest =>
    if c.toNat < 32 then .error ⟨.controlCharacter, offset⟩
    else do
      let (t, size) ← readText start (offset + 1) rest
      .ok (c :: t, size + 1)

/-- The whole part of a number: a lone zero, or digits that do not start with one. -/
def wholePart : List Char → List Char
  | [] => []
  | c :: rest => if c = '0' then [c] else (c :: rest).takeWhile Char.isDigit

def places : List Char → List Char
  | '.' :: rest => rest.takeWhile Char.isDigit
  | _ => []

/-- The longest number at the start of the text, and how many characters it takes; one with digits
behind a point or with an exponent is not an integer. There is no limit to the digits of an integer,
where a system may refuse to convert more than 4300. -/
def number? (cs : List Char) : Option (Json × Nat) :=
  let (negative, start) : Bool × Nat := match cs with
    | '-' :: _ => (true, 1)
    | _ => (false, 0)
  let cs := cs.drop start
  match wholePart cs with
  | [] => none
  | whole =>
    let places := places (cs.drop whole.length)
    let size := whole.length + (if places.isEmpty then 0 else 1 + places.length)
    let digits := Text.digitsValue (whole ++ places)
    match places, Text.exponent? (cs.drop size) with
    | [], none => some (.int (if negative then -digits else digits), start + size)
    | _, none => some (.float (.ofDecimal negative digits (-places.length)), start + size)
    | _, some (e, n) =>
      some (.float (.ofDecimal negative digits (e - places.length)), start + size + n)

def words : List (List Char × Json) :=
  [("null".toList, .null), ("true".toList, .bool true), ("false".toList, .bool false),
    ("NaN".toList, .float .nan), ("Infinity".toList, .float (.infinite false)),
    ("-Infinity".toList, .float (.infinite true))]

def literal? (cs : List Char) : Option (Json × Nat) :=
  match words.find? fun w => w.1.isPrefixOf cs with
  | some (word, j) => some (j, word.length)
  | none => number? cs

def mark? : Char → Option Token
  | '[' => some .openArray
  | ']' => some .closeArray
  | '{' => some .openObject
  | '}' => some .closeObject
  | ',' => some .comma
  | ':' => some .colon
  | _ => none

/-- The tokens of a text whose first character stands at `offset`; `skip` characters belong to the
token before it. -/
def tokens (offset skip : Nat) : List Char → List Placed
  | [] => [⟨offset, .finish⟩]
  | c :: rest =>
    match skip with
    | n + 1 => tokens (offset + 1) n rest
    | 0 =>
      if isSpace c then tokens (offset + 1) 0 rest
      else match mark? c with
        | some m => ⟨offset, m⟩ :: tokens (offset + 1) 0 rest
        | none =>
          if c = '"' then match readText offset (offset + 1) rest with
            | .error fault => [⟨offset, .broken fault⟩]
            | .ok (t, size) =>
              ⟨offset, .text (String.ofList t)⟩ :: tokens (offset + 1) size rest
          else match literal? (c :: rest) with
            | none => [⟨offset, .unknown⟩]
            | some (j, size) => ⟨offset, .literal j⟩ :: tokens (offset + 1) (size - 1) rest

end RichText.Json
