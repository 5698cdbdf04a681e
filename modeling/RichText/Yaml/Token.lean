import RichText.Yaml.Fault

/-!
The tokens of a YAML text. Indentation has become tokens that open and close block collections.
-/

set_option autoImplicit false
set_option relaxedAutoImplicit false

namespace RichText.Yaml

inductive Token
  | version (major : Nat)
  | tagHandle (handle address : String)
  | otherDirective
  | documentStart
  | documentEnd
  | blockSequenceStart
  | blockMappingStart
  | blockEnd
  | flowSequenceStart
  | flowSequenceEnd
  | flowMappingStart
  | flowMappingEnd
  | blockEntry
  | flowEntry
  | key
  | value
  | alias (name : String)
  | anchor (name : String)
  | tag (handle : Option String) (suffix : String)
  | scalar (text : String) (plain : Bool)
  | finish
  deriving DecidableEq, Repr

/-- The tokens of a text up to its end, or up to the place behind which it cannot be read. -/
structure Tokens where
  tokens : List Token
  fault : Option Fault := none
  deriving DecidableEq, Repr

end RichText.Yaml
