import RichText.Binary64.Display
import RichText.Text.Quoted
import RichText.Value

/-!
How messages show a value and name its kind.
-/

set_option autoImplicit false
set_option relaxedAutoImplicit false

namespace RichText

def commaSeparated (parts : List String) : String := String.intercalate ", " parts

def Scalar.kindName : Scalar → String
  | .null => "NoneType"
  | .bool _ => "bool"
  | .int _ => "int"
  | .float _ => "float"
  | .text _ => "str"
  | .bytes _ => "bytes"
  | .date _ => "date"
  | .dateTime _ => "datetime"

def Value.kindName : Value → String
  | .scalar s => s.kindName
  | .list _ => "list"
  | .pair _ _ => "tuple"
  | .set _ => "set"
  | .mapping _ => "dict"
  | .again _ unrolled => (unrolled ()).kindName

def displaySpan (seconds : Int) : String :=
  let days := seconds.fdiv 86400
  let rest := seconds.fmod 86400
  let parts := (if days = 0 then [] else [s!"days={days}"])
    ++ (if rest = 0 then [] else [s!"seconds={rest}"])
  s!"datetime.timedelta({commaSeparated parts})"

def displayOffset (seconds : Int) : String :=
  if seconds = 0 then "datetime.timezone.utc" else s!"datetime.timezone({displaySpan seconds})"

def Date.display (d : Date) : String :=
  s!"datetime.date({d.year}, {d.month}, {d.day})"

/-- Seconds and microseconds are left out where they are zero. -/
def DateTime.display (t : DateTime) : String :=
  let clock :=
    if t.microsecond ≠ 0 then [t.hour, t.minute, t.second, t.microsecond]
    else if t.second ≠ 0 then [t.hour, t.minute, t.second]
    else [t.hour, t.minute]
  let fields := ([t.date.year, t.date.month, t.date.day] ++ clock).map toString
  let zone := match t.offset with
    | none => []
    | some seconds => [s!"tzinfo={displayOffset seconds}"]
  s!"datetime.datetime({commaSeparated (fields ++ zone)})"

def Scalar.display : Scalar → String
  | .null => "None"
  | .bool b => if b then "True" else "False"
  | .int n => toString n
  | .float x => x.display
  | .text s => Text.quoted s
  | .bytes bs => Text.quotedBytes bs
  | .date d => d.display
  | .dateTime t => t.display

def Value.abbreviation : Value → String
  | .list _ => "[...]"
  | .mapping _ => "\x7b...\x7d"
  | .again _ unrolled => (unrolled ()).abbreviation
  | _ => "..."

mutual

/-- A value inside `depth` collections that are being shown. -/
def Value.displayAt (depth : Nat) : Value → String
  | .scalar s => s.display
  | .list items => "[" ++ commaSeparated (displayItems (depth + 1) items) ++ "]"
  | .pair a b => "(" ++ commaSeparated [a.displayAt depth, b.displayAt depth] ++ ")"
  | .set [] => "set()"
  | .set members => "\x7b" ++ commaSeparated (members.map Scalar.display) ++ "\x7d"
  | .mapping entries => "\x7b" ++ commaSeparated (displayEntries (depth + 1) entries) ++ "\x7d"
  | .again between unrolled =>
    if between < depth then (unrolled ()).abbreviation else (unrolled ()).displayAt depth

def displayItems (depth : Nat) : List Value → List String
  | [] => []
  | v :: rest => v.displayAt depth :: displayItems depth rest

def displayEntries (depth : Nat) : List (Scalar × Value) → List String
  | [] => []
  | (k, v) :: rest => (k.display ++ ": " ++ v.displayAt depth) :: displayEntries depth rest

end

def Value.display (v : Value) : String := v.displayAt 0

end RichText
