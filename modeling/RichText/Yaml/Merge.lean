import RichText.Yaml.Fault
import RichText.Yaml.Node
import RichText.Yaml.Plain

/-!
Merge keys. A mapping gets the entries of the mappings under its merge keys in front of its own, so
that its own override them. The mappings are changed for good: all who refer to one see it merged,
and a default key in it is text from then on.
-/

set_option autoImplicit false
set_option relaxedAutoImplicit false

namespace RichText.Yaml.Graph

abbrev Entries := List (NodeId × NodeId)

def takeMerge (g : Graph) : Entries → Option (NodeId × Entries)
  | [] => none
  | (k, v) :: rest =>
    if g.tag k = Tag.core "merge" then some (v, rest)
    else (takeMerge g rest).map fun (source, rest) => (source, (k, v) :: rest)

def settleDefaults (g : Graph) (entries : Entries) : Graph :=
  entries.foldl (fun g e =>
    if g.tag e.1 = Tag.core "value" then g.setTag e.1 (Tag.core "str") else g) g

/-- Resolves the merge keys of a mapping that already inherits some entries. Every step takes away
one merge key, which bounds their number. -/
def mergeFrom (g : Graph) (n : NodeId) (inherited : Entries) : Nat → Except Fault Graph
  | 0 => .error .malformed
  | steps + 1 =>
    match g.takeMerge (g.entries n) with
    | none =>
      let g := g.settleDefaults (g.entries n)
      .ok (if inherited.isEmpty then g else g.setBody n (.mapping (inherited ++ g.entries n)))
    | some (source, rest) =>
      let g := g.setBody n (.mapping rest)
      match g.body source with
      | .scalar _ => .error .malformed
      | .mapping _ => do
        let g ← mergeFrom g source [] steps
        mergeFrom g n (inherited ++ g.entries source) steps
      | .sequence items => do
        let (g, found) ← items.foldlM (fun (acc : Graph × Entries) item =>
          match acc.1.body item with
          | .mapping _ => do
            let g ← mergeFrom acc.1 item [] steps
            .ok (g, g.entries item ++ acc.2)
          | _ => .error .malformed) (g, [])
        mergeFrom g n (inherited ++ found) steps

def mergeCount (g : Graph) : Nat :=
  g.nodes.foldl (fun count node => match node.body with
    | .mapping entries => count + entries.countP fun e => g.tag e.1 = Tag.core "merge"
    | _ => count) 0

def merge (g : Graph) (n : NodeId) : Except Fault Graph := g.mergeFrom n [] (g.mergeCount + 1)

end RichText.Yaml.Graph
