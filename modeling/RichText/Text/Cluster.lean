import RichText.Text.Cells

/-!
A text cut into what is shown as one: a character with the marks, the selectors and the joined
pictures behind it.
-/

set_option autoImplicit false
set_option relaxedAutoImplicit false

namespace RichText.Text

structure Cluster where
  chars : List Char
  width : Nat
  deriving DecidableEq, Repr

def Cluster.extend (g : Cluster) (cs : List Char) (more : Nat) : Cluster :=
  { chars := g.chars ++ cs, width := g.width + more }

/-- The clusters of a text behind the start of the first one. The last character with cells before
the text is `last`, unless its picture form is counted already. -/
def clustersBehind (start : Cluster) (last : Option Char) : List Char → List Cluster
  | [] => [start]
  | c :: rest =>
    if c = joiner then match rest with
      | [] => [start.extend [c] 0]
      | d :: more => clustersBehind (start.extend [c, d] 0) last more
    else if c = pictureSelector then clustersBehind (start.extend [c] (gain last)) none rest
    else match cellWidth c with
      | 0 => clustersBehind (start.extend [c] 0) last rest
      | width + 1 => start :: clustersBehind { chars := [c], width := width + 1 } (some c) rest

/-- The clusters of a text. A mark that begins the text stands alone. -/
def clusters : List Char → List Cluster
  | [] => []
  | c :: rest =>
    let last := if cellWidth c = 0 then none else some c
    clustersBehind { chars := [c], width := cellWidth c } last rest

end RichText.Text
