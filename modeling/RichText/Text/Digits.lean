/-!
Decimal numbers written in ASCII: their digits, their sign and the exponent behind them.
-/

set_option autoImplicit false
set_option relaxedAutoImplicit false

namespace RichText.Text

def digitsValue (cs : List Char) : Nat := cs.foldl (fun n c => 10 * n + (c.toNat - 48)) 0

def sign : List Char → Bool × Nat
  | '-' :: _ => (true, 1)
  | '+' :: _ => (false, 1)
  | _ => (false, 0)

/-- The signed digits behind an exponent mark, when there is at least one, and how many characters
the mark and the digits take. -/
def exponent? : List Char → Option (Int × Nat)
  | [] => none
  | m :: rest =>
    if m = 'e' || m = 'E' then
      let (negative, size) := sign rest
      match (rest.drop size).takeWhile Char.isDigit with
      | [] => none
      | ds =>
        let n : Int := digitsValue ds
        some (if negative then -n else n, 1 + size + ds.length)
    else none

end RichText.Text
