import RichText.Tree

/-!
Trees while they are edited. A run of text has no place for content until it is given some; what it
is given is no part of the tree, yet later steps find it there.
-/

set_option autoImplicit false
set_option relaxedAutoImplicit false

namespace RichText

/-- A node without a place for content, or the content of a node beside the node without it. -/
inductive Draft
  | leaf (label : Node)
  | branch (label : Node) (content : Option (List Draft))

namespace Draft

def label : Draft → Node
  | .leaf n => n
  | .branch n _ => n

def withLabel (n : Node) : Draft → Draft
  | .leaf _ => .leaf n
  | .branch _ c => .branch n c

mutual

def ofNode : Node → Draft
  | .doc c => .branch (.doc none) (ofContent c)
  | .paragraph c => .branch (.paragraph none) (ofContent c)
  | .bulletList c => .branch (.bulletList none) (ofContent c)
  | .orderedList a c => .branch (.orderedList a none) (ofContent c)
  | .listItem c => .branch (.listItem none) (ofContent c)
  | .text s m => .leaf (.text s m)

def ofContent : Content → Option (List Draft)
  | none => none
  | some ns => some (ofNodes ns)

def ofNodes : List Node → List Draft
  | [] => []
  | n :: ns => ofNode n :: ofNodes ns

end

mutual

def tree : Draft → Node
  | .leaf n => n
  | .branch n c => n.withContent (treeContent c)

def treeContent : Option (List Draft) → Content
  | none => none
  | some ds => some (trees ds)

def trees : List Draft → List Node
  | [] => []
  | d :: ds => tree d :: trees ds

end

end Draft

end RichText
