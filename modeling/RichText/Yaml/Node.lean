/-!
The nodes of a YAML document as a graph: scalars, sequences and mappings with their resolved tags.
A node is named by its place in the graph, so that an alias is the very node of its anchor, also
inside that node itself.
-/

set_option autoImplicit false
set_option relaxedAutoImplicit false

namespace RichText.Yaml

abbrev NodeId := Nat

inductive Body
  | scalar (text : String)
  | sequence (items : List NodeId)
  | mapping (entries : List (NodeId × NodeId))
  deriving DecidableEq, Repr

structure Node where
  tag : String
  body : Body
  deriving DecidableEq, Repr

structure Graph where
  nodes : Array Node := #[]
  deriving Repr

namespace Graph

def size (g : Graph) : Nat := g.nodes.size

def tag (g : Graph) (n : NodeId) : String := (g.nodes[n]?.map Node.tag).getD ""

def body (g : Graph) (n : NodeId) : Body := (g.nodes[n]?.map Node.body).getD (.scalar "")

def add (g : Graph) (node : Node) : NodeId × Graph := (g.size, { nodes := g.nodes.push node })

def setBody (g : Graph) (n : NodeId) (body : Body) : Graph :=
  { nodes := g.nodes.modify n fun node => { node with body } }

def setTag (g : Graph) (n : NodeId) (tag : String) : Graph :=
  { nodes := g.nodes.modify n fun node => { node with tag } }

/-- The entries of a mapping; another node has none. -/
def entries (g : Graph) (n : NodeId) : List (NodeId × NodeId) :=
  match g.body n with
  | .mapping entries => entries
  | _ => []

end Graph

structure Document where
  graph : Graph
  root : NodeId
  deriving Repr

end RichText.Yaml
