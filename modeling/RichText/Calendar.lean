/-!
Days and times of the calendar in use since 1582, carried back to year 1.
-/

set_option autoImplicit false
set_option relaxedAutoImplicit false

namespace RichText

structure Date where
  year : Nat
  month : Nat
  day : Nat
  deriving DecidableEq, Repr

/-- A time of day on a date; `offset` is its distance from universal time in seconds. -/
structure DateTime where
  date : Date
  hour : Nat
  minute : Nat
  second : Nat
  microsecond : Nat
  offset : Option Int
  deriving DecidableEq, Repr

def isLeap (year : Nat) : Bool := year % 4 = 0 && (year % 100 ≠ 0 || year % 400 = 0)

def monthLength (year : Nat) : Nat → Nat
  | 2 => if isLeap year then 29 else 28
  | 4 | 6 | 9 | 11 => 30
  | _ => 31

def daysBeforeMonth (year : Nat) : Nat → Nat
  | 0 => 0
  | 1 => 0
  | month + 1 => daysBeforeMonth year month + monthLength year month

/-- The number of a day, the first day of year 1 being day 1. -/
def Date.number (d : Date) : Nat :=
  let y := d.year - 1
  365 * y + y / 4 - y / 100 + y / 400 + daysBeforeMonth d.year d.month + d.day

namespace DateTime

/-- The microseconds of universal time since the day before year 1; a time of no known distance from
it has none. -/
def instant? (t : DateTime) : Option Int :=
  t.offset.map fun offset =>
    let clock := 3600 * t.hour + 60 * t.minute + t.second
    1000000 * ((86400 * t.date.number + clock : Nat) - offset) + t.microsecond

/-- Two times are the same moment in universal time, or alike where they are not related to it. -/
def sameMoment (a b : DateTime) : Bool :=
  match a.instant?, b.instant? with
  | some x, some y => x = y
  | none, none => a = b
  | _, _ => false

end DateTime

end RichText
