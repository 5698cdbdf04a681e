import RichText.Yaml.Node
import RichText.Yaml.Plain
import RichText.Yaml.Token

/-!
Reading the only document of a text from its tokens. A token that cannot be read is a fault only for
a reader who gets as far as that token.
-/

set_option autoImplicit false
set_option relaxedAutoImplicit false

namespace RichText.Yaml

structure Reading where
  tokens : List Token
  /-- Why there are no more tokens, if not because the text ends. -/
  fault : Option Fault
  graph : Graph := {}
  anchors : List (String × NodeId) := []
  handles : List (String × String) := []

abbrev Read := StateT Reading (Except Fault)

namespace Read

def malformed {α : Type} : Read α := throw .malformed

def next : Read Token := do
  let r ← get
  match r.tokens, r.fault with
  | t :: _, _ => pure t
  | [], some fault => throw fault
  | [], none => pure .finish

def skip : Read Unit := modify fun r => { r with tokens := r.tokens.tail }

def add (tag : String) (body : Body) : Read NodeId := do
  let r ← get
  let (n, graph) := r.graph.add { tag, body }
  set { r with graph }
  pure n

def setBody (n : NodeId) (body : Body) : Read Unit :=
  modify fun r => { r with graph := r.graph.setBody n body }

def addEmpty : Read NodeId := add (Tag.core "null") (.scalar "")

def addAnchored (anchor : Option String) (tag : String) (body : Body) : Read NodeId := do
  let n ← add tag body
  match anchor with
  | none => pure n
  | some name =>
    modify fun r => { r with anchors := (name, n) :: r.anchors }
    pure n

def fullTag (handle : Option String) (suffix : String) : Read String := do
  match handle with
  | none => pure suffix
  | some h => match (← get).handles.lookup h with
    | none => malformed
    | some address => pure (address ++ suffix)

def anchor? : Read (Option String) := do
  match ← next with
  | .anchor name =>
    skip
    pure (some name)
  | _ => pure none

end Read

structure Properties where
  anchor : Option String := none
  tag : Option String := none

namespace Properties

/-- An anchor and a tag in either order. The handle of a tag is looked up behind both. -/
def read : Read Properties := do
  let first ← Read.anchor?
  match ← Read.next with
  | .tag handle suffix =>
    Read.skip
    let anchor ← match first with
      | none => Read.anchor?
      | some name => pure (some name)
    let tag ← Read.fullTag handle suffix
    pure { anchor, tag }
  | _ => pure { anchor := first }

def collectionTag (p : Properties) (usual : String) : String :=
  match p.tag with
  | none => Tag.core usual
  | some "!" => Tag.core usual
  | some t => t

/-- The tag of a scalar; the lone exclamation mark asks for the resolution of plain text. -/
def scalarTag (p : Properties) (plain : Bool) (text : String) : String :=
  match p.tag with
  | none => if plain then Tag.ofPlain text else Tag.core "str"
  | some "!" => Tag.ofPlain text
  | some t => t

def isEmpty (p : Properties) : Bool := p.anchor.isNone && p.tag.isNone

/-- A name is bound once in a document. -/
def check (p : Properties) : Read Unit := do
  match p.anchor with
  | none => pure ()
  | some name => if ((← get).anchors.lookup name).isSome then Read.malformed else pure ()

end Properties

/-- Where a node stands: flow collections hold no block collections, and the value of a mapping
may be a sequence without indentation of its own. -/
inductive Place
  | block
  | blockValue
  | flow
  deriving DecidableEq, Repr

def Token.endsBlockEntry : Token → Bool
  | .key | .value | .blockEnd => true
  | _ => false

/-- A sequence that is there before its items, so that they may refer to it. -/
def readSequence (p : Properties) (items : Read (List NodeId)) : Read NodeId := do
  let n ← Read.addAnchored p.anchor (p.collectionTag "seq") (.sequence [])
  Read.setBody n (.sequence (← items))
  pure n

def readMapping (p : Properties) (entries : Read (List (NodeId × NodeId))) : Read NodeId := do
  let n ← Read.addAnchored p.anchor (p.collectionTag "map") (.mapping [])
  Read.setBody n (.mapping (← entries))
  pure n

/-- A comma in front of all items of a flow collection but the first. -/
def readComma (first : Bool) (close : Token) : Read Unit := do
  let t ← Read.next
  if t = close || first then pure ()
  else if t = .flowEntry then Read.skip
  else Read.malformed

mutual

def readNode (place : Place) : Nat → Read NodeId
  | 0 => Read.malformed
  | steps + 1 => do
    match ← Read.next with
    | .alias name => match (← get).anchors.lookup name with
      | none => Read.malformed
      | some n =>
        Read.skip
        pure n
    | _ =>
      let p ← Properties.read
      let t ← Read.next
      p.check
      match t, place with
      | .blockEntry, .blockValue => readSequence p (readPlainItems steps)
      | .scalar text plain, _ =>
        Read.skip
        Read.addAnchored p.anchor (p.scalarTag plain text) (.scalar text)
      | .flowSequenceStart, _ =>
        Read.skip
        readSequence p (readFlowItems true steps)
      | .flowMappingStart, _ =>
        Read.skip
        readMapping p (readFlowEntries true steps)
      | .blockSequenceStart, .flow => Read.malformed
      | .blockMappingStart, .flow => Read.malformed
      | .blockSequenceStart, _ =>
        Read.skip
        readSequence p (readBlockItems steps)
      | .blockMappingStart, _ =>
        Read.skip
        readMapping p (readBlockEntries steps)
      | _, _ =>
        if p.isEmpty then Read.malformed
        else Read.addAnchored p.anchor (p.scalarTag true "") (.scalar "")

def readPart (place : Place) (ends : Token → Bool) : Nat → Read NodeId
  | 0 => Read.malformed
  | steps + 1 => do
    if ends (← Read.next) then Read.addEmpty else readNode place steps

def readBlockItems : Nat → Read (List NodeId)
  | 0 => Read.malformed
  | steps + 1 => do
    match ← Read.next with
    | .blockEntry =>
      Read.skip
      let n ← readPart .block (fun t => t = .blockEntry || t = .blockEnd) steps
      let ns ← readBlockItems steps
      pure (n :: ns)
    | .blockEnd =>
      Read.skip
      pure []
    | _ => Read.malformed

/-- The items of a sequence without indentation of its own; any other token ends it. -/
def readPlainItems : Nat → Read (List NodeId)
  | 0 => Read.malformed
  | steps + 1 => do
    match ← Read.next with
    | .blockEntry =>
      Read.skip
      let n ← readPart .block (fun t => t = .blockEntry || t.endsBlockEntry) steps
      let ns ← readPlainItems steps
      pure (n :: ns)
    | _ => pure []

def readValue (place : Place) (ends : Token → Bool) : Nat → Read NodeId
  | 0 => Read.malformed
  | steps + 1 => do
    match ← Read.next with
    | .value =>
      Read.skip
      readPart place ends steps
    | _ => Read.addEmpty

def readBlockEntries : Nat → Read (List (NodeId × NodeId))
  | 0 => Read.malformed
  | steps + 1 => do
    match ← Read.next with
    | .key =>
      Read.skip
      let k ← readPart .blockValue Token.endsBlockEntry steps
      let v ← readValue .blockValue Token.endsBlockEntry steps
      let es ← readBlockEntries steps
      pure ((k, v) :: es)
    | .blockEnd =>
      Read.skip
      pure []
    | _ => Read.malformed

/-- The items of a flow sequence behind its bracket or an item; an entry of a mapping is an item. -/
def readFlowItems (first : Bool) : Nat → Read (List NodeId)
  | 0 => Read.malformed
  | steps + 1 => do
    readComma first .flowSequenceEnd
    match ← Read.next with
    | .flowSequenceEnd =>
      Read.skip
      pure []
    | .key =>
      Read.skip
      let n ← readMapping {} (readPair steps)
      let ns ← readFlowItems false steps
      pure (n :: ns)
    | _ =>
      let n ← readNode .flow steps
      let ns ← readFlowItems false steps
      pure (n :: ns)

def readPair : Nat → Read (List (NodeId × NodeId))
  | 0 => Read.malformed
  | steps + 1 => do
    let k ← readPart .flow (fun t => t = .value || t = .flowEntry || t = .flowSequenceEnd) steps
    let v ← readValue .flow (fun t => t = .flowEntry || t = .flowSequenceEnd) steps
    pure [(k, v)]

/-- The entries of a flow mapping behind its bracket or an entry; a lone node is a key. -/
def readFlowEntries (first : Bool) : Nat → Read (List (NodeId × NodeId))
  | 0 => Read.malformed
  | steps + 1 => do
    readComma first .flowMappingEnd
    match ← Read.next with
    | .flowMappingEnd =>
      Read.skip
      pure []
    | .key =>
      Read.skip
      let k ← readPart .flow (fun t => t = .value || t = .flowEntry || t = .flowMappingEnd) steps
      let v ← readValue .flow (fun t => t = .flowEntry || t = .flowMappingEnd) steps
      let es ← readFlowEntries false steps
      pure ((k, v) :: es)
    | _ =>
      let k ← readNode .flow steps
      let v ← Read.addEmpty
      let es ← readFlowEntries false steps
      pure ((k, v) :: es)

end

namespace Document

/-- The directives in front of a document: at most one version, of the first major number, and each
handle once. -/
def readDirectives (versioned : Bool) (handles : List (String × String)) :
    Nat → Read (List (String × String))
  | 0 => Read.malformed
  | steps + 1 => do
    match ← Read.next with
    | .version major =>
      Read.skip
      if versioned || major ≠ 1 then Read.malformed else readDirectives true handles steps
    | .tagHandle handle address =>
      Read.skip
      if (handles.lookup handle).isSome then Read.malformed
      else readDirectives versioned ((handle, address) :: handles) steps
    | .otherDirective =>
      Read.skip
      readDirectives versioned handles steps
    | _ => pure handles

def usualHandles : List (String × String) := [("!", "!"), ("!!", Tag.core "")]

def isEmptyBefore : Token → Bool
  | .version _ | .tagHandle _ _ | .otherDirective | .documentStart | .documentEnd | .finish => true
  | _ => false

def steps : Read Nat := do
  pure (3 * (← get).tokens.length + 3)

def skipEndMarks : Nat → Read Unit
  | 0 => pure ()
  | steps + 1 => do
    match ← Read.next with
    | .documentEnd =>
      Read.skip
      skipEndMarks steps
    | _ => pure ()

def readStart : Read Bool := do
  let steps ← steps
  skipEndMarks steps
  match ← Read.next with
  | .finish => pure false
  | _ =>
    let handles ← readDirectives false [] steps
    match ← Read.next with
    | .documentStart =>
      Read.skip
      modify fun r => { r with handles := handles ++ usualHandles }
      pure true
    | _ => Read.malformed

def readRoot : Read NodeId := do
  readPart .block isEmptyBefore (← steps)

def readFirst : Read (Option NodeId) := do
  match ← Read.next with
  | .version _ | .tagHandle _ _ | .otherDirective | .documentStart | .finish =>
    if ← readStart then
      let n ← readRoot
      pure (some n)
    else pure none
  | _ =>
    modify fun r => { r with handles := usualHandles }
    let n ← readNode .block (← steps)
    pure (some n)

/-- The root of the only document; a second one is refused. -/
def readOnly : Read (Option NodeId) := do
  match ← readFirst with
  | none => pure none
  | some n => if ← readStart then Read.malformed else pure (some n)

def ofTokens (tokens : Tokens) : Except Fault (Option Document) := do
  let (root, r) ← readOnly.run { tokens := tokens.tokens, fault := tokens.fault }
  .ok (root.map fun root => { graph := r.graph, root })

end Document

end RichText.Yaml
