import RichText.Yaml.Data
import RichText.Yaml.Document
import RichText.Yaml.Token.Stream

/-!
Reading the only document of a YAML text as plain data; an empty text is null.
-/

set_option autoImplicit false
set_option relaxedAutoImplicit false

namespace RichText.Yaml

def parse (text : String) : Except Fault Value := do
  match ← Document.ofTokens (Tokens.ofText text) with
  | none => .ok .null
  | some d => d.value

end RichText.Yaml
