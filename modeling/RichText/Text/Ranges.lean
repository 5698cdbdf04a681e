/-!
Classes of characters given by ranges of code points.
-/

set_option autoImplicit false
set_option relaxedAutoImplicit false

namespace RichText.Text

def within (ranges : Array (Nat × Nat)) (c : Char) : Bool :=
  ranges.any fun r => r.1 ≤ c.toNat && c.toNat ≤ r.2

end RichText.Text
