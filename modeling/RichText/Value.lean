import RichText.Binary64
import RichText.Calendar

/-!
Data as a document reader builds it: scalars, lists, pairs, sets and mappings. A mapping keeps its
entries in the order of their first insertion, and only scalars are keys. A collection may be part
of itself; there it is written again, as far as a reader goes.
-/

set_option autoImplicit false
set_option relaxedAutoImplicit false

namespace RichText

inductive Scalar
  | null
  | bool (b : Bool)
  | int (n : Int)
  | float (x : Binary64)
  | text (s : String)
  | bytes (bs : List UInt8)
  | date (d : Date)
  | dateTime (t : DateTime)
  deriving DecidableEq, Repr

inductive Value
  | scalar (s : Scalar)
  | list (items : List Value)
  | pair (first second : Value)
  | set (members : List Scalar)
  | mapping (entries : List (Scalar × Value))
  /-- A collection around this place once more; `between` collections stand between the two. -/
  | again (between : Nat) (unrolled : Unit → Value)

namespace Value

@[match_pattern] abbrev null : Value := .scalar .null
@[match_pattern] abbrev bool (b : Bool) : Value := .scalar (.bool b)
@[match_pattern] abbrev int (n : Int) : Value := .scalar (.int n)
@[match_pattern] abbrev text (s : String) : Value := .scalar (.text s)

/-- The collection that a value repeats, or else the value itself. -/
def resolved : Value → Value
  | .again _ unrolled => (unrolled ()).resolved
  | .scalar s => .scalar s
  | .list items => .list items
  | .pair a b => .pair a b
  | .set members => .set members
  | .mapping entries => .mapping entries

def field? (key : String) : List (Scalar × Value) → Option Value
  | [] => none
  | (k, v) :: rest => if k = .text key then some v.resolved else field? key rest

end Value

/-- The number a scalar counts as when it is compared; truth values count as 1 and 0. -/
def Scalar.number? : Scalar → Option (Int ⊕ Binary64)
  | .bool b => some (.inl (if b then 1 else 0))
  | .int n => some (.inl n)
  | .float x => some (match x.toInt? with
    | some n => .inl n
    | none => .inr x)
  | _ => none

/-- Two scalars are one key when they are equal as numbers, the same moment or equal as they stand;
a number that is not a number equals nothing. -/
def Scalar.sameKey (a b : Scalar) : Bool :=
  match a.number?, b.number? with
  | some (.inr .nan), _ => false
  | some x, some y => x = y
  | none, none => match a, b with
    | .dateTime t, .dateTime u => t.sameMoment u
    | _, _ => a = b
  | _, _ => false

/-- Null, false, zero and everything empty count as false. -/
def Value.isFalsy : Value → Bool
  | .scalar .null => true
  | .scalar (.bool b) => !b
  | .scalar (.int n) => n = 0
  | .scalar (.float x) => x.isZero
  | .scalar (.text s) => s = ""
  | .scalar (.bytes bs) => bs.isEmpty
  | .scalar (.date _) => false
  | .scalar (.dateTime _) => false
  | .list items => items.isEmpty
  | .pair _ _ => false
  | .set members => members.isEmpty
  | .mapping entries => entries.isEmpty
  | .again _ unrolled => (unrolled ()).isFalsy

end RichText
