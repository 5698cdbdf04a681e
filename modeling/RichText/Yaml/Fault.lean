import RichText.Value.Display

/-!
What can be wrong with a YAML text: the text itself, a scalar that states a kind its characters
do not have, or a value that contains itself where it is read to its end.
-/

set_option autoImplicit false
set_option relaxedAutoImplicit false

namespace RichText.Yaml

/-- A scalar that has no value of its stated kind, or a value without end. -/
inductive ValueFault
  | notTruth (text : String)
  | notInteger (base : Nat) (text : String)
  | notFloat (text : String)
  | emptyNumber
  | notTimestamp
  | timestampNotText
  | year (n : Nat)
  | month
  | day
  | hour
  | minute
  | second
  | offset (seconds : Int)
  | hugeUnit
  | codePoint
  | hugeCodePoint
  | endless
  deriving DecidableEq, Repr

inductive Fault
  | malformed
  | value (fault : ValueFault)
  deriving DecidableEq, Repr

/-- The families of value faults; the first is the one a document reader expects. What is too large
for a number or for the depth of calls overflows. -/
inductive ValueFault.Family
  | unfit
  | unknownKey
  | outOfText
  | noMatch
  | wrongType
  | overflow
  deriving DecidableEq, Repr

namespace ValueFault

def family : ValueFault → Family
  | .notTruth _ => .unknownKey
  | .emptyNumber => .outOfText
  | .notTimestamp => .noMatch
  | .timestampNotText => .wrongType
  | .hugeUnit => .overflow
  | .hugeCodePoint => .overflow
  | .endless => .overflow
  | _ => .unfit

/-- The message of a fault; of a text that is no integer it shows at most 200 characters. That of a
value without end may go on to say which call was one too many. -/
def message : ValueFault → String
  | .notTruth text => Text.quoted text
  | .notInteger base text =>
    let literal := String.ofList ((Text.quoted text).toList.take 200)
    s!"invalid literal for int() with base {base}: {literal}"
  | .notFloat text => s!"could not convert string to float: {Text.quoted text}"
  | .emptyNumber => "string index out of range"
  | .notTimestamp => "'NoneType' object has no attribute 'groupdict'"
  | .timestampNotText => "expected string or bytes-like object, got 'list'"
  | .year n => s!"year {n} is out of range"
  | .month => "month must be in 1..12"
  | .day => "day is out of range for month"
  | .hour => "hour must be in 0..23"
  | .minute => "minute must be in 0..59"
  | .second => "second must be in 0..59"
  | .offset seconds =>
    "offset must be a timedelta strictly between -timedelta(hours=24) and timedelta(hours=24), not "
      ++ displaySpan seconds ++ "."
  | .hugeUnit => "int too large to convert to float"
  | .codePoint => "chr() arg not in range(0x110000)"
  | .hugeCodePoint => "Python int too large to convert to C int"
  | .endless => "maximum recursion depth exceeded"

end ValueFault

end RichText.Yaml
