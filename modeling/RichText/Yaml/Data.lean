import RichText.Value.Members
import RichText.Yaml.Merge
import RichText.Yaml.Scalar

/-!
The data of a YAML document. Collections are made empty and filled one after the other, in the order
in which they were met, so that a collection may be part of itself; a node that is met again is the
data made for it before. Of several faults the one that is met first in this order counts.
-/

set_option autoImplicit false
set_option relaxedAutoImplicit false

namespace RichText.Yaml

/-- A scalar, or a collection by the place at which it was met. -/
inductive Item
  | scalar (s : Scalar)
  | collection (place : Nat)
  deriving DecidableEq, Repr

inductive Holding
  | list (items : List Item)
  | pairs (items : List (Item × Item))
  | set (members : List Scalar)
  | mapping (entries : List (Scalar × Item))
  deriving Repr

inductive CollectionKind
  | sequence
  | mapping
  | set
  | orderedMapping
  | pairs
  deriving DecidableEq, Repr

def CollectionKind.name : CollectionKind → String
  | .sequence => "seq"
  | .mapping => "map"
  | .set => "set"
  | .orderedMapping => "omap"
  | .pairs => "pairs"

def CollectionKind.ofTag? (tag : String) : Option CollectionKind :=
  [.sequence, .mapping, .set, .orderedMapping, .pairs].find? fun k => tag = Tag.core (name k)

/-- The graph, what was made for its nodes, and the collections met so far, the first of which are
filled. -/
structure Building where
  graph : Graph
  made : Array (Option Item)
  collections : Array (CollectionKind × NodeId) := #[]
  holdings : Array Holding := #[]

abbrev Build := StateT Building (Except Fault)

namespace Build

def malformed {α : Type} : Build α := throw .malformed

/-- What a node is made into when it is met for the first time. -/
def make (n : NodeId) : Build Item := do
  let b ← get
  let tag := b.graph.tag n
  match ScalarKind.ofTag? tag, CollectionKind.ofTag? tag with
  | some kind, _ =>
    let s ← liftExcept (b.graph.scalar n kind)
    pure (.scalar s)
  | none, some kind =>
    set { b with collections := b.collections.push (kind, n) }
    pure (.collection b.collections.size)
  | none, none => malformed
where
  liftExcept {α : Type} : Except Fault α → Build α
    | .ok a => pure a
    | .error fault => throw fault

def item (n : NodeId) : Build Item := do
  match ((← get).made[n]?).join with
  | some i => pure i
  | none =>
    let i ← make n
    modify fun b => { b with made := b.made.modify n fun _ => some i }
    pure i

/-- Which number that is not a number a key is: those of the usual name are one, and every other one
is as its node. -/
def nanOrigin (n : NodeId) : Build (Option NodeId) := do
  let g := (← get).graph
  pure (if (g.text n).toOption.any Number.isUsualNan then none else some n)

structure Entry where
  origin : Option NodeId
  key : Scalar
  item : Item

def Entry.isSame (a b : Entry) : Bool :=
  a.key.sameKey b.key
    || (a.origin = b.origin && a.key = .float .nan && b.key = .float .nan)

/-- Puts an entry at the end, or else under the key it shares. -/
def Entry.put (e : Entry) : List Entry → List Entry
  | [] => [e]
  | old :: rest => if old.isSame e then { old with item := e.item } :: rest else old :: e.put rest

/-- The entries of a mapping with merge keys resolved; only a scalar is a key. -/
def entries (n : NodeId) : Build (List (Scalar × Item)) := do
  let b ← get
  match b.graph.body n with
  | .mapping _ =>
    match b.graph.merge n with
    | .error fault => throw fault
    | .ok graph =>
      set { b with graph }
      let es ← (graph.entries n).foldlM addEntry []
      pure (es.map fun e => (e.key, e.item))
  | _ => malformed
where
  addEntry (acc : List Entry) (e : NodeId × NodeId) : Build (List Entry) := do
    match ← item e.1 with
    | .scalar key =>
      let origin ← nanOrigin e.1
      let i ← item e.2
      pure (Entry.put { origin, key, item := i } acc)
    | .collection _ => malformed

def pair (n : NodeId) : Build (Item × Item) := do
  match (← get).graph.body n with
  | .mapping [(k, v)] =>
    let key ← item k
    let i ← item v
    pure (key, i)
  | _ => malformed

def items (n : NodeId) : Build (List NodeId) := do
  match (← get).graph.body n with
  | .sequence items => pure items
  | _ => malformed

def holding (kind : CollectionKind) (n : NodeId) : Build Holding := do
  match kind with
  | .sequence =>
    let is ← (← items n).mapM item
    pure (.list is)
  | .orderedMapping | .pairs =>
    let ps ← (← items n).mapM pair
    pure (.pairs ps)
  | .mapping =>
    let es ← entries n
    pure (.mapping es)
  | .set =>
    let es ← entries n
    pure (.set (Scalar.arranged (es.map Prod.fst)))

/-- Fills the collections in the order in which they were met; there are no more than nodes. -/
def fill : Nat → Build Unit
  | 0 => pure ()
  | steps + 1 => do
    let b ← get
    match b.collections[b.holdings.size]? with
    | none => pure ()
    | some (kind, n) =>
      let h ← holding kind n
      modify fun b => { b with holdings := b.holdings.push h }
      fill steps

end Build

/-- The value of an item inside some collections, the nearest first. Null stands below the depth to
which it is unrolled. -/
def Item.value (holdings : Array Holding) (around : List Nat) : Nat → Item → Value
  | _, .scalar s => .scalar s
  | 0, .collection _ => .null
  | steps + 1, .collection place =>
    let inner := value holdings (place :: around) steps
    let unrolled : Unit → Value := fun _ =>
      match holdings[place]? with
      | none => .null
      | some (.list items) => .list (items.map inner)
      | some (.pairs items) => .list (items.map fun p => .pair (inner p.1) (inner p.2))
      | some (.set members) => .set members
      | some (.mapping entries) => .mapping (entries.map fun e => (e.1, inner e.2))
    match around.findIdx? (· = place) with
    | none => unrolled ()
    | some between => .again between unrolled

/-- The value of a document, unrolled as far as is looked at: a load that ends goes through a
collection at most once on the way to what it shows and once where it shows it, with a few fields in
between, and one without end is known by the first collection that it comes back to. -/
def Document.value (d : Document) : Except Fault Value := do
  let size := d.graph.size
  let start : Building := { graph := d.graph, made := (List.replicate size none).toArray }
  let (root, b) ← (do
    let root ← Build.item d.root
    Build.fill size
    pure root : Build Item).run start
  .ok (root.value b.holdings [] (2 * b.holdings.size + 8))

end RichText.Yaml
