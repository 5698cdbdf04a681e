import RichText.Text.Digits
import RichText.Yaml.Fault

/-!
Dates and times in YAML. A date alone has two digits for its month and its day when it is written
without a tag.
-/

set_option autoImplicit false
set_option relaxedAutoImplicit false

namespace RichText.Yaml

inductive Zone
  | universal
  | offset (negative : Bool) (hours minutes : Nat)
  deriving DecidableEq, Repr

/-- The distance of a zone in seconds; it is less than a day. -/
def Zone.seconds : Zone → Except ValueFault Int
  | .universal => .ok 0
  | .offset negative hours minutes =>
    let size : Int := 3600 * hours + 60 * minutes
    let seconds := if negative then -size else size
    if 86400 ≤ size then .error (.offset seconds) else .ok seconds

structure Timestamp where
  year : Nat
  month : Nat
  day : Nat
  /-- Whether the month and the day have two digits each. -/
  wide : Bool
  clock : Option (Nat × Nat × Nat)
  fraction : List Char
  zone : Option Zone
  deriving Repr

namespace Timestamp

/-- A number of at least `low` and at most `high` digits, as many as there are. -/
def digits? (low high : Nat) (cs : List Char) : Option (List Char × List Char) :=
  let ds := (cs.take high).takeWhile Char.isDigit
  if ds.length < low then none else some (ds, cs.drop ds.length)

def mark? (m : Char) : List Char → Option (List Char)
  | c :: rest => if c = m then some rest else none
  | [] => none

def offset? (negative : Bool) (cs : List Char) : Option (Zone × List Char) := do
  let (hours, rest) ← digits? 1 2 cs
  match mark? ':' rest with
  | none => some (.offset negative (Text.digitsValue hours) 0, rest)
  | some rest => do
    let (minutes, rest) ← digits? 2 2 rest
    some (.offset negative (Text.digitsValue hours) (Text.digitsValue minutes), rest)

def isBlank (c : Char) : Bool := c = ' ' || c = '\t'

def zone? (cs : List Char) : Option (Option Zone × List Char) :=
  match cs with
  | [] => some (none, [])
  | _ => match cs.dropWhile isBlank with
    | 'Z' :: rest => some (some .universal, rest)
    | '+' :: rest => (offset? false rest).map fun z => (some z.1, z.2)
    | '-' :: rest => (offset? true rest).map fun z => (some z.1, z.2)
    | _ => none

def gap? (cs : List Char) : Option (List Char) :=
  match cs with
  | 'T' :: rest => some rest
  | 't' :: rest => some rest
  | c :: rest => if isBlank c then some (rest.dropWhile isBlank) else none
  | [] => none

def parse? (text : List Char) : Option Timestamp := do
  let (year, rest) ← digits? 4 4 text
  let rest ← mark? '-' rest
  let (month, rest) ← digits? 1 2 rest
  let rest ← mark? '-' rest
  let (day, rest) ← digits? 1 2 rest
  let date : Timestamp :=
    { year := Text.digitsValue year, month := Text.digitsValue month, day := Text.digitsValue day
      wide := month.length = 2 && day.length = 2
      clock := none, fraction := [], zone := none }
  match rest with
  | [] => some date
  | _ => do
    let rest ← gap? rest
    let (hour, rest) ← digits? 1 2 rest
    let rest ← mark? ':' rest
    let (minute, rest) ← digits? 2 2 rest
    let rest ← mark? ':' rest
    let (second, rest) ← digits? 2 2 rest
    let (fraction, rest) := match mark? '.' rest with
      | some rest => (rest.takeWhile Char.isDigit, rest.dropWhile Char.isDigit)
      | none => ([], rest)
    let (zone, rest) ← zone? rest
    if rest.isEmpty then
      some { date with
        clock := some (Text.digitsValue hour, Text.digitsValue minute, Text.digitsValue second)
        fraction, zone }
    else none

def date (t : Timestamp) : Except ValueFault Date :=
  if t.year = 0 then .error (.year t.year)
  else if t.month = 0 || 12 < t.month then .error .month
  else if t.day = 0 || monthLength t.year t.month < t.day then .error .day
  else .ok ⟨t.year, t.month, t.day⟩

def microsecond (t : Timestamp) : Nat :=
  Text.digitsValue ((t.fraction ++ List.replicate 6 '0').take 6)

def value (t : Timestamp) : Except ValueFault Scalar :=
  match t.clock with
  | none => do
    let d ← t.date
    .ok (.date d)
  | some (hour, minute, second) => do
    let offset ← match t.zone with
      | none => .ok none
      | some z => do
        let s ← z.seconds
        .ok (some s)
    let date ← t.date
    if 23 < hour then .error .hour
    else if 59 < minute then .error .minute
    else if 59 < second then .error .second
    else .ok (.dateTime { date, hour, minute, second, microsecond := t.microsecond, offset })

end Timestamp

end RichText.Yaml
