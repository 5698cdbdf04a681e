import RichText.Binary64.Shortest

/-!
The text of a binary number: its shortest digits, positional while the leading digit stands between
the fourth place after the point and the sixteenth before it, else with an exponent of at least two
digits.
-/

set_option autoImplicit false
set_option relaxedAutoImplicit false

namespace RichText.Binary64

def zeros (n : Nat) : String := String.ofList (List.replicate n '0')

/-- Places a point after `point` of the digits, with zeros where there are none. -/
def positional (digits : String) (point : Int) : String :=
  let n := digits.length
  if point ≤ 0 then "0." ++ zeros (-point).toNat ++ digits
  else if n ≤ point.toNat then digits ++ zeros (point.toNat - n) ++ ".0"
  else String.ofList (digits.toList.take point.toNat) ++ "."
    ++ String.ofList (digits.toList.drop point.toNat)

/-- One digit before the point, and the exponent with its sign. -/
def scientific (digits : String) (exponent : Int) : String :=
  let body := match digits.toList with
    | [] => ""
    | [d] => String.ofList [d]
    | d :: rest => String.ofList (d :: '.' :: rest)
  let size := toString exponent.natAbs
  body ++ "e" ++ (if exponent < 0 then "-" else "+") ++ zeros (2 - size.length) ++ size

def displayAbs (significand : Nat) (exponent : Int) : String :=
  let d := shortest significand exponent
  let digits := toString d.digits
  let point := d.exponent + digits.length
  if -4 < point && point ≤ 16 then positional digits point else scientific digits (point - 1)

def display : Binary64 → String
  | .nan => "nan"
  | .infinite s => if s then "-inf" else "inf"
  | .finite s m e => if s then "-" ++ displayAbs m e else displayAbs m e

end RichText.Binary64
