import RichText.Json.Reader
import RichText.Tree.Load
import RichText.Yaml.Reader

/-!
Reading a tree from a JSON or YAML text.
-/

set_option autoImplicit false
set_option relaxedAutoImplicit false

namespace RichText

inductive TextFormat
  | json
  | yaml
  deriving DecidableEq, Repr

inductive ReadError
  | json (fault : Json.Fault) (text : String)
  | yaml (fault : Yaml.Fault)
  | load (error : LoadError)

/-- A malformed YAML text has no message of its own. -/
def ReadError.message : ReadError → String
  | .json fault text => fault.message text
  | .yaml .malformed => "<yaml error>"
  | .yaml (.value fault) => fault.message
  | .load e => e.message

structure TreeReading where
  warnings : List LoadWarning
  outcome : Except ReadError Node

def TextFormat.parse (format : TextFormat) (text : String) : Except ReadError Value :=
  match format with
  | .json => match Json.parse text with
    | .ok j => .ok j.toValue
    | .error fault => .error (.json fault text)
  | .yaml => match Yaml.parse text with
    | .ok v => .ok v
    | .error fault => .error (.yaml fault)

/-- Content that contains itself is a fault of a YAML text, told without the warnings on the way
round. How deep other data may be nested is up to the machine and has no bound here. -/
def Node.read (format : TextFormat) (s : Strictness) (text : String) : TreeReading :=
  match format.parse text with
  | .error e => ⟨[], .error e⟩
  | .ok v =>
    if Node.isEndless s v then ⟨[], .error (.yaml (.value .endless))⟩
    else
      let l := Node.load s v
      ⟨l.warnings, l.outcome.mapError .load⟩

end RichText
