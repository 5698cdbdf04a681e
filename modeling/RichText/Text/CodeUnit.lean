/-!
Characters that escapes give by the hexadecimal digits of their code units. Characters beyond the
basic plane are pairs of units, a high and a low surrogate.
-/

set_option autoImplicit false
set_option relaxedAutoImplicit false

namespace RichText.Text

def hexValue? (c : Char) : Option Nat :=
  if '0' ≤ c && c ≤ '9' then some (c.toNat - 48)
  else if 'a' ≤ c && c ≤ 'f' then some (c.toNat - 87)
  else if 'A' ≤ c && c ≤ 'F' then some (c.toNat - 55)
  else none

def hexValues? : List Char → Option Nat :=
  List.foldl (fun acc c => acc.bind fun n => (hexValue? c).map (16 * n + ·)) (some 0)

/-- The character of one code unit. Half of a pair is no character: the replacement character stands
for it here, where a system may keep the half in the text and fail to write it as UTF-8. -/
def unitChar (n : Nat) : Char :=
  if 0xD800 ≤ n && n ≤ 0xDFFF then '\uFFFD' else Char.ofNat n

def pairChar? (high low : Nat) : Option Char :=
  if 0xD800 ≤ high && high ≤ 0xDBFF && 0xDC00 ≤ low && low ≤ 0xDFFF then
    some (Char.ofNat (0x10000 + (high - 0xD800) * 0x400 + (low - 0xDC00)))
  else none

end RichText.Text
