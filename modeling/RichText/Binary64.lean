/-!
Binary floating-point numbers with a 53-bit significand, as exact data: a finite number is
`± significand * 2 ^ exponent`. Rounding takes a quotient of natural numbers to the nearest such
number, a tie to the even significand.
-/

set_option autoImplicit false
set_option relaxedAutoImplicit false

namespace RichText

/-- A finite number keeps its sign, also for zero. -/
inductive Binary64
  | nan
  | infinite (negative : Bool)
  | finite (negative : Bool) (significand : Nat) (exponent : Int)
  deriving DecidableEq, Repr

namespace Binary64

def zero : Binary64 := .finite false 0 0

def neg : Binary64 → Binary64
  | .nan => .nan
  | .infinite s => .infinite !s
  | .finite s m e => .finite (!s) m e

def isZero : Binary64 → Bool
  | .finite _ 0 _ => true
  | _ => false

/-- The nearest integer to `num / den`, a tie going to the even one. -/
def roundDiv (num den : Nat) : Nat :=
  let q := num / den
  let twice := 2 * (num % den)
  if twice < den then q
  else if den < twice then q + 1
  else if q % 2 = 0 then q else q + 1

/-- The quotient `num / den` divided by `2 ^ e`, as a quotient again. -/
def scaleQuotient (num den : Nat) (e : Int) : Nat × Nat :=
  if 0 ≤ e then (num, den * Nat.pow 2 e.toNat) else (num * Nat.pow 2 (-e).toNat, den)

def minExponent : Int := -1074

def maxExponent : Int := 971

/-- The exponent that leaves a quotient 53 bits before its binary point, or the least one. -/
def exponentOf (num den : Nat) : Int :=
  let guess := (num.log2 : Int) - (den.log2 : Int) - 52
  let (n, d) := scaleQuotient num den guess
  max minExponent (if n < d * Nat.pow 2 52 then guess - 1 else guess)

def ofQuotient (negative : Bool) (num den : Nat) : Binary64 :=
  if num = 0 then .finite negative 0 0
  else
    let e := exponentOf num den
    let (n, d) := scaleQuotient num den e
    let m := roundDiv n d
    let (m, e) := if m = Nat.pow 2 53 then (Nat.pow 2 52, e + 1) else (m, e)
    if m = 0 then .finite negative 0 0
    else if maxExponent < e then .infinite negative
    else .finite negative m e

def ofDecimal (negative : Bool) (digits : Nat) (exponent : Int) : Binary64 :=
  let size := exponent + (Nat.toDigits 10 digits).length
  if digits = 0 then .finite negative 0 0
  else if 310 < size then .infinite negative
  else if size < -330 then .finite negative 0 0
  else if 0 ≤ exponent then ofQuotient negative (digits * Nat.pow 10 exponent.toNat) 1
  else ofQuotient negative digits (Nat.pow 10 (-exponent).toNat)

def ofNat (n : Nat) : Binary64 := ofQuotient false n 1

/-- The absolute value of a finite number as a quotient. -/
def quotient (significand : Nat) (exponent : Int) : Nat × Nat :=
  if 0 ≤ exponent then (significand * Nat.pow 2 exponent.toNat, 1)
  else (significand, Nat.pow 2 (-exponent).toNat)

/-- The rounded product; infinity times zero is no number. -/
def mul : Binary64 → Binary64 → Binary64
  | .finite s m e, .finite t n f =>
    let (a, b) := quotient m e
    let (c, d) := quotient n f
    ofQuotient (s != t) (a * c) (b * d)
  | .infinite s, .infinite t => .infinite (s != t)
  | .infinite s, .finite t n _ => if n = 0 then .nan else .infinite (s != t)
  | .finite s m _, .infinite t => if m = 0 then .nan else .infinite (s != t)
  | .nan, _ => .nan
  | _, .nan => .nan

def signed (negative : Bool) (n : Nat) : Int := if negative then -n else n

/-- The rounded sum; zero is negative only as a sum of negative numbers, and infinities of two signs
have none. -/
def add : Binary64 → Binary64 → Binary64
  | .finite s m e, .finite t n f =>
    let (a, b) := quotient m e
    let (c, d) := quotient n f
    let sum := signed s (a * d) + signed t (c * b)
    ofQuotient (decide (sum < 0) || (s && t)) sum.natAbs (b * d)
  | .infinite s, .infinite t => if s = t then .infinite s else .nan
  | .infinite s, .finite _ _ _ => .infinite s
  | .finite _ _ _, .infinite t => .infinite t
  | .nan, _ => .nan
  | _, .nan => .nan

def toInt? : Binary64 → Option Int
  | .finite s m e =>
    let (a, b) := quotient m e
    if a % b = 0 then some (if s then -((a / b : Nat) : Int) else (a / b : Nat)) else none
  | _ => none

end Binary64

end RichText
