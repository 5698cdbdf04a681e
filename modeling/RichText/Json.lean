import RichText.Value

/-!
JSON documents. An object keeps its fields in the order of their first appearance, each name once.
-/

set_option autoImplicit false
set_option relaxedAutoImplicit false

namespace RichText

inductive Json
  | null
  | bool (b : Bool)
  | int (n : Int)
  | float (x : Binary64)
  | text (s : String)
  | array (items : List Json)
  | object (fields : List (String × Json))
  deriving Repr

namespace Json

/-- Puts a field under a name: a new one at the end, else in the place of the old one. -/
def putField (name : String) (v : Json) : List (String × Json) → List (String × Json)
  | [] => [(name, v)]
  | (k, old) :: rest => if k = name then (k, v) :: rest else (k, old) :: putField name v rest

def field? (name : String) : List (String × Json) → Option Json
  | [] => none
  | (k, v) :: rest => if k = name then some v else field? name rest

mutual

def toValue : Json → Value
  | .null => .null
  | .bool b => .bool b
  | .int n => .int n
  | .float x => .scalar (.float x)
  | .text s => .text s
  | .array items => .list (valuesOf items)
  | .object fields => .mapping (entriesOf fields)

def valuesOf : List Json → List Value
  | [] => []
  | j :: rest => j.toValue :: valuesOf rest

def entriesOf : List (String × Json) → List (Scalar × Value)
  | [] => []
  | (name, j) :: rest => (.text name, j.toValue) :: entriesOf rest

end

end Json

end RichText
