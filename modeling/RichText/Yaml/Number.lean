import RichText.Text.Blank
import RichText.Text.Digits
import RichText.Text.Lower
import RichText.Yaml.Fault

/-!
Numbers of scalars. Digits of all scripts count and spaces around a number do not; underscores have
no meaning. A number with colons is written to the base 60.
-/

set_option autoImplicit false
set_option relaxedAutoImplicit false

namespace RichText.Yaml

namespace Number

/-- The text with digits of all scripts as ASCII digits and without the spaces around it. -/
def plainDigits (cs : List Char) : List Char :=
  Text.trimSpace (cs.map fun c => match Text.decimalDigit? c with
    | some d => Char.ofNat (48 + d)
    | none => c)

def sign : List Char → Bool × List Char
  | '-' :: rest => (true, rest)
  | '+' :: rest => (false, rest)
  | cs => (false, cs)

def digit? (base : Nat) (c : Char) : Option Nat :=
  let n := if c.isDigit then some (c.toNat - 48)
    else if c.isLower then some (c.toNat - 87)
    else if c.isUpper then some (c.toNat - 55)
    else none
  n.filter (· < base)

def digits? (base : Nat) : List Char → Option Nat
  | [] => none
  | cs => cs.foldl (fun acc c => acc.bind fun n => (digit? base c).map (base * n + ·)) (some 0)

def baseMark : Nat → List Char
  | 2 => ['b', 'B']
  | 8 => ['o', 'O']
  | 16 => ['x', 'X']
  | _ => []

/-- The digits behind the mark of their base, which may be missing. -/
def dropBaseMark (base : Nat) : List Char → List Char
  | '0' :: m :: rest => if (baseMark base).contains m then rest else '0' :: m :: rest
  | cs => cs

/-- An integer to a base. There is no limit to its digits, where a system may refuse to convert more
than 4300 of base ten. -/
def integer (base : Nat) (cs : List Char) : Except ValueFault Int :=
  let (negative, rest) := sign (plainDigits cs)
  match digits? base (dropBaseMark base rest) with
  | none => .error (.notInteger base (String.ofList cs))
  | some n => .ok (if negative then -n else n)

def parts (cs : List Char) : List (List Char) :=
  cs.foldr (fun c acc => match acc with
    | [] => [[c]]
    | p :: ps => if c = ':' then [] :: p :: ps else (c :: p) :: ps) [[]]

def sixtiesInt (cs : List Char) : Except ValueFault Int :=
  (parts cs).foldlM (fun acc p => do
    let n ← integer 10 p
    .ok (60 * acc + n)) 0

/-- A decimal number with an optional point and exponent, or a word for infinity or no number. -/
def unsigned? (negative : Bool) (cs : List Char) : Option Binary64 :=
  let word := String.ofList (cs.map Char.toLower)
  if word = "inf" || word = "infinity" then some (.infinite negative)
  else if word = "nan" then some .nan
  else
    let whole := cs.takeWhile Char.isDigit
    let (places, rest) := match cs.dropWhile Char.isDigit with
      | '.' :: rest => (rest.takeWhile Char.isDigit, rest.dropWhile Char.isDigit)
      | rest => ([], rest)
    if whole.isEmpty && places.isEmpty then none
    else
      let n := Text.digitsValue (whole ++ places)
      match rest, Text.exponent? rest with
      | [], _ => some (.ofDecimal negative n (-places.length))
      | _, some (e, size) =>
        if (rest.drop size).isEmpty then some (.ofDecimal negative n (e - places.length)) else none
      | _, none => none

def float (cs : List Char) : Except ValueFault Binary64 :=
  let (negative, rest) := sign (plainDigits cs)
  match unsigned? negative rest with
  | none => .error (.notFloat (String.ofList cs))
  | some x => .ok x

/-- The parts from the last to the first, each taken `unit` times and the next one sixty times as
often. A unit beyond the floating-point numbers is refused. -/
def addSixties (sum : Binary64) (unit : Nat) : List Binary64 → Except ValueFault Binary64
  | [] => .ok sum
  | x :: rest =>
    match Binary64.ofNat unit with
    | .infinite _ => .error .hugeUnit
    | u => addSixties (sum.add (x.mul u)) (60 * unit) rest

def sixtiesFloat (cs : List Char) : Except ValueFault Binary64 := do
  let digits ← (parts cs).mapM float
  addSixties .zero 1 digits.reverse

def ofIntText (s : String) : Except ValueFault Int :=
  match s.toList.filter (· ≠ '_') with
  | [] => .error .emptyNumber
  | cs =>
    let (negative, rest) := sign cs
    let signed (n : Int) : Int := if negative then -n else n
    match rest with
    | [] => .error .emptyNumber
    | ['0'] => .ok 0
    | '0' :: 'b' :: ds => return signed (← integer 2 ds)
    | '0' :: 'x' :: ds => return signed (← integer 16 ds)
    | '0' :: ds => return signed (← integer 8 ('0' :: ds))
    | ds => if ds.contains ':' then return signed (← sixtiesInt ds)
      else return signed (← integer 10 ds)

def floatChars (s : String) : List Char := Text.lowered (s.toList.filter (· ≠ '_'))

def isUsualNan (s : String) : Bool := (sign (floatChars s)).2 = ".nan".toList

def ofFloatText (s : String) : Except ValueFault Binary64 :=
  match floatChars s with
  | [] => .error .emptyNumber
  | cs =>
    let (negative, rest) := sign cs
    let signed (x : Binary64) : Binary64 := if negative then x.neg else x
    if rest = ".inf".toList then .ok (.infinite negative)
    else if rest = ".nan".toList then .ok .nan
    else if rest.contains ':' then return signed (← sixtiesFloat rest)
    else return signed (← float rest)

end Number

end RichText.Yaml
