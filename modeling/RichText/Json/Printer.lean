import RichText.Binary64.Display
import RichText.Json
import RichText.Text.Quoted

/-!
The text of a JSON document, on one line or with one item a line. Characters outside ASCII stand
for themselves; only the quote, the backslash and the control characters are escaped.
-/

set_option autoImplicit false
set_option relaxedAutoImplicit false

namespace RichText.Json

def escapeChar (c : Char) : List Char :=
  if c = '"' then ['\\', '"']
  else if c = '\\' then ['\\', '\\']
  else if c = '\n' then ['\\', 'n']
  else if c = '\r' then ['\\', 'r']
  else if c = '\t' then ['\\', 't']
  else if c = '\x08' then ['\\', 'b']
  else if c = '\x0c' then ['\\', 'f']
  else if c.toNat < 32 then '\\' :: 'u' :: Text.hexDigits 4 c.toNat
  else [c]

def printText (s : String) : List Char :=
  '"' :: s.toList.flatMap escapeChar ++ ['"']

def printFloat : Binary64 → List Char
  | .nan => ['N', 'a', 'N']
  | .infinite s => (if s then "-Infinity" else "Infinity").toList
  | x => x.display.toList

/-- A line break with the indentation of a depth; nothing when the document is on one line. -/
def lineBreak (indent : Option Nat) (depth : Nat) : List Char :=
  match indent with
  | none => []
  | some width => '\n' :: List.replicate (width * depth) ' '

def separator (indent : Option Nat) (depth : Nat) : List Char :=
  match indent with
  | none => [',', ' ']
  | some _ => ',' :: lineBreak indent depth

mutual

def print (indent : Option Nat) (depth : Nat) : Json → List Char
  | .null => ['n', 'u', 'l', 'l']
  | .bool true => ['t', 'r', 'u', 'e']
  | .bool false => ['f', 'a', 'l', 's', 'e']
  | .int n => (toString n).toList
  | .float x => printFloat x
  | .text s => printText s
  | .array [] => ['[', ']']
  | .array (j :: rest) =>
    '[' :: lineBreak indent (depth + 1) ++ print indent (depth + 1) j
      ++ printItems indent (depth + 1) rest ++ lineBreak indent depth ++ [']']
  | .object [] => ['{', '}']
  | .object ((name, j) :: rest) =>
    '{' :: lineBreak indent (depth + 1) ++ printText name ++ [':', ' ']
      ++ print indent (depth + 1) j ++ printFields indent (depth + 1) rest
      ++ lineBreak indent depth ++ ['}']

def printItems (indent : Option Nat) (depth : Nat) : List Json → List Char
  | [] => []
  | j :: rest => separator indent depth ++ print indent depth j ++ printItems indent depth rest

def printFields (indent : Option Nat) (depth : Nat) : List (String × Json) → List Char
  | [] => []
  | (name, j) :: rest =>
    separator indent depth ++ printText name ++ [':', ' '] ++ print indent depth j
      ++ printFields indent depth rest

end

/-- A negative indentation counts as zero. -/
def render (indent : Option Int) (j : Json) : String :=
  String.ofList (print (indent.map Int.toNat) 0 j)

end RichText.Json
