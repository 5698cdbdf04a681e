/-!
Bytes written in base 64. Characters outside the alphabet are skipped; padding ends the text once it
completes a group.
-/

set_option autoImplicit false
set_option relaxedAutoImplicit false

namespace RichText.Yaml.Base64

def digit? (c : Char) : Option Nat :=
  if c.isUpper then some (c.toNat - 65)
  else if c.isLower then some (c.toNat - 71)
  else if c.isDigit then some (c.toNat + 4)
  else if c = '+' then some 62
  else if c = '/' then some 63
  else none

/-- Decodes behind `count` digits of a group, of which `carry` holds the bits not yet written, and
`pads` signs of padding. -/
def decodeFrom (count carry pads : Nat) : List Char → Option (List UInt8)
  | [] => if count = 0 then some [] else none
  | c :: rest =>
    if c = '=' then
      if 2 ≤ count && 4 ≤ count + pads + 1 then some []
      else decodeFrom count carry (if 2 ≤ count then pads + 1 else pads) rest
    else match digit? c with
      | none => decodeFrom count carry pads rest
      | some d => match count with
        | 0 => decodeFrom 1 d 0 rest
        | 1 => (decodeFrom 2 (d % 16) 0 rest).map ((carry * 4 + d / 16).toUInt8 :: ·)
        | 2 => (decodeFrom 3 (d % 4) 0 rest).map ((carry * 16 + d / 4).toUInt8 :: ·)
        | _ => (decodeFrom 0 0 0 rest).map ((carry * 64 + d).toUInt8 :: ·)

def decode (cs : List Char) : Option (List UInt8) := decodeFrom 0 0 0 cs

end RichText.Yaml.Base64
