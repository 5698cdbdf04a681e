import RichText.Text.Lower
import RichText.Value
import RichText.Yaml.Base64
import RichText.Yaml.Node
import RichText.Yaml.Number
import RichText.Yaml.Plain

/-!
The values of scalars by their tags. A mapping stands for a scalar with what is under its default
key.
-/

set_option autoImplicit false
set_option relaxedAutoImplicit false

namespace RichText.Yaml

inductive ScalarKind
  | null
  | truth
  | integer
  | float
  | bytes
  | timestamp
  | text
  deriving DecidableEq, Repr

def ScalarKind.name : ScalarKind → String
  | .null => "null"
  | .truth => "bool"
  | .integer => "int"
  | .float => "float"
  | .bytes => "binary"
  | .timestamp => "timestamp"
  | .text => "str"

def ScalarKind.ofTag? (tag : String) : Option ScalarKind :=
  [.null, .truth, .integer, .float, .bytes, .timestamp, .text].find? fun k =>
    tag = Tag.core (name k)

namespace Graph

/-- The text of a node that stands for a scalar. A chain of default keys is no longer than the graph
unless it goes round for ever. -/
def textWithin (g : Graph) (n : NodeId) : Nat → Except Fault String
  | 0 => .error (.value .endless)
  | steps + 1 =>
    match g.body n with
    | .scalar text => .ok text
    | .sequence _ => .error .malformed
    | .mapping entries => match entries.find? fun e => g.tag e.1 = Tag.core "value" with
      | none => .error .malformed
      | some e => textWithin g e.2 steps

def text (g : Graph) (n : NodeId) : Except Fault String := g.textWithin n (g.size + 1)

def isScalar (g : Graph) (n : NodeId) : Bool :=
  match g.body n with
  | .scalar _ => true
  | _ => false

end Graph

namespace ScalarKind

def truth? (text : String) : Except Fault Scalar :=
  let word := String.ofList (Text.lowered text.toList)
  match Plain.truths.lookup word with
  | some b => .ok (.bool b)
  | none => .error (.value (.notTruth word))

def bytes? (text : String) : Except Fault Scalar :=
  if text.toList.all (·.toNat < 128) then
    match Base64.decode text.toList with
    | some octets => .ok (.bytes octets)
    | none => .error .malformed
  else .error .malformed

def timestamp? (text : String) : Except Fault Scalar :=
  match Timestamp.parse? (Plain.dropLineFeed text.toList) with
  | some t => t.value.mapError .value
  | none => .error (.value .notTimestamp)

def value (kind : ScalarKind) (text : String) : Except Fault Scalar :=
  match kind with
  | .null => .ok .null
  | .truth => truth? text
  | .integer => ((Number.ofIntText text).map .int).mapError .value
  | .float => ((Number.ofFloatText text).map .float).mapError .value
  | .bytes => bytes? text
  | .timestamp => timestamp? text
  | .text => .ok (.text text)

end ScalarKind

/-- The value of a node that stands for a scalar. A time has a text of its own. -/
def Graph.scalar (g : Graph) (n : NodeId) (kind : ScalarKind) : Except Fault Scalar :=
  match g.text n with
  | .error fault => .error fault
  | .ok text =>
    if kind = .timestamp && !g.isScalar n then .error (.value .timestampNotText)
    else kind.value text

end RichText.Yaml
