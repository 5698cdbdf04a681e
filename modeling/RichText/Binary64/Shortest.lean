import RichText.Binary64

/-!
The shortest decimal that reads back as a given binary number. For 1, 2, … 17 digits the two
neighbours of the number on that decimal grid are tried; the first grid with a neighbour inside the
interval of rationals that round to the number wins, and of two neighbours the nearer one.
-/

set_option autoImplicit false
set_option relaxedAutoImplicit false

namespace RichText.Binary64

/-- A positive decimal `digits * 10 ^ exponent`. -/
structure Decimal where
  digits : Nat
  exponent : Int
  deriving DecidableEq, Repr

/-- The rationals that round to `significand * 2 ^ exponent`, over one denominator: the ends belong
to the interval exactly when the significand is even. -/
structure RoundingInterval where
  low : Nat
  value : Nat
  high : Nat
  den : Nat
  closed : Bool

def roundingInterval (significand : Nat) (exponent : Int) : RoundingInterval :=
  let below := if significand = Nat.pow 2 52 && decide (minExponent < exponent) then 1 else 2
  let (scale, den) :=
    if 2 ≤ exponent then (Nat.pow 2 (exponent.toNat - 2), 1)
    else (1, Nat.pow 2 (2 - exponent).toNat)
  { low := (4 * significand - below) * scale
    value := 4 * significand * scale
    high := (4 * significand + 2) * scale
    den
    closed := significand % 2 = 0 }

def RoundingInterval.contains (i : RoundingInterval) (digits : Nat) (k : Int) : Bool :=
  let (up, down) : Nat × Nat :=
    if 0 ≤ k then (Nat.pow 10 k.toNat, 1) else (1, Nat.pow 10 (-k).toNat)
  let x := digits * up * i.den
  if i.closed then i.low * down ≤ x && x ≤ i.high * down
  else i.low * down < x && x < i.high * down

def leadingExponent (num den : Nat) : Int :=
  let guess := (((num.log2 : Int) - (den.log2 : Int)) * 30103).fdiv 100000
  let reaches (k : Int) : Bool :=
    if 0 ≤ k then den * Nat.pow 10 k.toNat ≤ num else den ≤ num * Nat.pow 10 (-k).toNat
  if reaches (guess + 1) then guess + 1
  else if reaches guess then guess
  else guess - 1

/-- The neighbour of the interval's value on the grid of `10 ^ k` that lies in the interval. -/
def RoundingInterval.onGrid? (i : RoundingInterval) (k : Int) : Option Nat :=
  let (num, den) :=
    if 0 ≤ k then (i.value, i.den * Nat.pow 10 k.toNat)
    else (i.value * Nat.pow 10 (-k).toNat, i.den)
  let d := num / den
  let nearer := roundDiv num den
  let farther := if nearer = d then d + 1 else d
  if i.contains nearer k then some nearer
  else if i.contains farther k then some farther
  else none

/-- A neighbour that carries into the next decade ends in a zero. -/
def Decimal.trim (d : Decimal) : Decimal :=
  if d.digits % 10 = 0 then ⟨d.digits / 10, d.exponent + 1⟩ else d

/-- The first of the grids `10 ^ k`, `10 ^ (k - 1)`, … that meets the interval. -/
def RoundingInterval.firstGrid (i : RoundingInterval) (k : Int) : Nat → Decimal
  | 0 => ⟨roundDiv i.value i.den, 0⟩
  | n + 1 => match i.onGrid? k with
    | some d => Decimal.trim ⟨d, k⟩
    | none => i.firstGrid (k - 1) n

/-- Zero has one digit; every other number has at most seventeen. -/
def shortest (significand : Nat) (exponent : Int) : Decimal :=
  if significand = 0 then ⟨0, 0⟩
  else
    let i := roundingInterval significand exponent
    i.firstGrid (leadingExponent i.value i.den) 17

end RichText.Binary64
