import RichText.Tree
import RichText.Value.Display

/-!
Loading a tree from data. A strict load refuses an entry of unknown type, a lenient one drops it
with a warning; a field of the wrong shape is refused in both. Warnings come in the order of the
entries, also in front of an error. A load follows content that contains itself without end.
-/

set_option autoImplicit false
set_option relaxedAutoImplicit false

namespace RichText

inductive MappingPlace
  | node
  | mark
  | attributes
  deriving DecidableEq, Repr

inductive ListField
  | content
  | marks
  deriving DecidableEq, Repr

inductive LinkField
  | href
  | className
  | target
  deriving DecidableEq, Repr

inductive LoadError
  | notAMapping (place : MappingPlace) (found : Value)
  | notAList (field : ListField) (found : Value)
  | missingType
  | unknownNode (type : Value)
  | unknownMark (type : Value)
  | startNotInteger (found : Value)
  | textNotText (found : Value)
  | linkFieldNotText (field : LinkField) (found : Value)
  | rootDropped (type : Value)

inductive LoadWarning
  | missingType
  | unknownNode (type : Value)
  | unknownMark (type : Value)

def MappingPlace.title : MappingPlace → String
  | .node => "Node"
  | .mark => "Mark"
  | .attributes => "'attrs'"

def ListField.name : ListField → String
  | .content => "content"
  | .marks => "marks"

def LinkField.name : LinkField → String
  | .href => "href"
  | .className => "class"
  | .target => "target"

def LoadError.message : LoadError → String
  | .notAMapping place found => s!"{place.title} must be a mapping, got {found.kindName}"
  | .notAList field found => s!"'{field.name}' must be a list, got {found.kindName}"
  | .missingType => "Dictionary must contain 'type' field"
  | .unknownNode type => s!"Unknown node type: {type.display}"
  | .unknownMark type => s!"Unknown mark type: {type.display}"
  | .startNotInteger found => s!"orderedList 'start' must be an integer, got {found.display}"
  | .textNotText found => s!"text node 'text' must be a string, got {found.kindName}"
  | .linkFieldNotText field found => s!"link '{field.name}' must be a string, got {found.kindName}"
  | .rootDropped type => s!"Root node could not be deserialized: {type.display}"

def LoadWarning.message : LoadWarning → String
  | .missingType => "Dictionary missing 'type' field, skipping"
  | .unknownNode type => s!"Unknown node type {type.display}, skipping"
  | .unknownMark type => s!"Unknown mark type {type.display}, skipping"

structure Loading (α : Type) where
  warnings : List LoadWarning
  outcome : Except LoadError α

namespace Loading

variable {α β : Type}

def ok (a : α) : Loading α := ⟨[], .ok a⟩

def fail (e : LoadError) : Loading α := ⟨[], .error e⟩

def warn (w : LoadWarning) (a : α) : Loading α := ⟨[w], .ok a⟩

/-- Warnings add up; an error ends the load. -/
def andThen (x : Loading α) (f : α → Loading β) : Loading β :=
  match x.outcome with
  | .error e => ⟨x.warnings, .error e⟩
  | .ok a => ⟨x.warnings ++ (f a).warnings, (f a).outcome⟩

instance : Monad Loading where
  pure := ok
  bind := andThen

end Loading

inductive Strictness
  | strict
  | lenient
  deriving DecidableEq, Repr

/-- An entry of unknown type: an error in a strict load, nothing but a warning in a lenient one. -/
def Strictness.reject {α : Type} (s : Strictness) (e : LoadError) (w : LoadWarning) :
    Loading (Option α) :=
  match s with
  | .strict => .fail e
  | .lenient => .warn w none

/-- The type an entry states, null where it states none. -/
def statedType (entries : List (Scalar × Value)) : Value :=
  (Value.field? "type" entries).getD .null

/-- The attributes of an entry; null counts as absent. -/
def loadAttributes (entries : List (Scalar × Value)) :
    Loading (Option (List (Scalar × Value))) :=
  match Value.field? "attrs" entries with
  | none => .ok none
  | some .null => .ok none
  | some (.mapping attributes) => .ok (some attributes)
  | some v => .fail (.notAMapping .attributes v)

namespace Mark

def loadLinkField (field : LinkField) (attributes : List (Scalar × Value)) :
    Loading (Option String) :=
  match Value.field? field.name attributes with
  | none => .ok none
  | some .null => .ok none
  | some (.text s) => .ok (some s)
  | some v => .fail (.linkFieldNotText field v)

def loadLink (entries : List (Scalar × Value)) : Loading Mark := do
  match ← loadAttributes entries with
  | none => .ok (.link none)
  | some attributes =>
    let href ← loadLinkField .href attributes
    let className ← loadLinkField .className attributes
    let target ← loadLinkField .target attributes
    .ok (.link (some { href, className, target }))

def load (s : Strictness) : Value → Loading (Option Mark)
  | .mapping entries => match statedType entries with
    | .text "bold" => .ok (some .bold)
    | .text "italic" => .ok (some .italic)
    | .text "link" => do
      let m ← loadLink entries
      .ok (some m)
    | type => s.reject (.unknownMark type) (.unknownMark type)
  | .again _ unrolled => load s (unrolled ())
  | v => .fail (.notAMapping .mark v)

def loadAll (s : Strictness) : List Value → Loading (List Mark)
  | [] => .ok []
  | v :: rest => do
    let m ← load s v
    let ms ← loadAll s rest
    .ok (m.toList ++ ms)

end Mark

namespace Node

def loadMarks (s : Strictness) (entries : List (Scalar × Value)) : Loading (Option (List Mark)) :=
  match Value.field? "marks" entries with
  | none => .ok none
  | some .null => .ok none
  | some (.list items) => do
    let ms ← Mark.loadAll s items
    .ok (some ms)
  | some v => .fail (.notAList .marks v)

def loadText (s : Strictness) (entries : List (Scalar × Value)) : Loading Node :=
  match (Value.field? "text" entries).getD (.text "") with
  | .text value => do
    let marks ← loadMarks s entries
    .ok (.text value marks)
  | v => .fail (.textNotText v)

def loadListAttributes (entries : List (Scalar × Value)) : Loading (Option ListAttributes) := do
  match ← loadAttributes entries with
  | none => .ok none
  | some attributes => match Value.field? "start" attributes with
    | none => .ok (some { start := none })
    | some .null => .ok (some { start := none })
    | some (.int n) => .ok (some { start := some n })
    | some v => .fail (.startNotInteger v)

def statedKind? : Value → Option Kind
  | .text tag => Kind.ofTag? tag
  | _ => none

mutual

/-- Loads one entry, or nothing where a lenient load drops it. -/
def loadEntry (s : Strictness) : Value → Loading (Option Node)
  | .mapping entries =>
    let type := statedType entries
    if type.isFalsy then s.reject .missingType .missingType
    else match statedKind? type with
      | none => s.reject (.unknownNode type) (.unknownNode type)
      | some .doc => do
        let c ← loadContent s entries
        .ok (some (.doc c))
      | some .paragraph => do
        let c ← loadContent s entries
        .ok (some (.paragraph c))
      | some .bulletList => do
        let c ← loadContent s entries
        .ok (some (.bulletList c))
      | some .orderedList => do
        let a ← loadListAttributes entries
        let c ← loadContent s entries
        .ok (some (.orderedList a c))
      | some .listItem => do
        let c ← loadContent s entries
        .ok (some (.listItem c))
      | some .text => do
        let n ← loadText s entries
        .ok (some n)
  | .again _ unrolled => loadEntry s (unrolled ())
  | v => .fail (.notAMapping .node v)

def loadContent (s : Strictness) : List (Scalar × Value) → Loading Content
  | [] => .ok none
  | (k, v) :: rest => if k = .text "content" then loadContentFrom s v else loadContent s rest

def loadContentFrom (s : Strictness) : Value → Loading Content
  | .null => .ok none
  | .list items => do
    let ns ← loadEntries s items
    .ok (some ns)
  | .again _ unrolled => loadContentFrom s (unrolled ())
  | v => .fail (.notAList .content v)

def loadEntries (s : Strictness) : List Value → Loading (List Node)
  | [] => .ok []
  | v :: rest => do
    let n ← loadEntry s v
    let ns ← loadEntries s rest
    .ok (n.toList ++ ns)

end

/-- Loads a whole tree; a root that is dropped is an error. -/
def load (s : Strictness) (v : Value) : Loading Node := do
  match ← loadEntry s v with
  | some n => .ok n
  | none => match v.resolved with
    | .mapping entries => .fail (.rootDropped (statedType entries))
    | _ => .fail (.rootDropped .null)

mutual

/-- Whether a load of an entry goes round for ever: on its way it comes to a mapping or a list that
it is inside of already, and nothing in front of that place ends it. -/
def isEndless (s : Strictness) : Value → Bool
  | .mapping entries => match statedKind? (statedType entries) with
    | none => false
    | some .text => false
    | some .orderedList =>
      (loadListAttributes entries).outcome.isOk && isContentEndless s entries
    | some _ => isContentEndless s entries
  | .again _ unrolled => match (unrolled ()).resolved with
    | .mapping _ => true
    | _ => false
  | _ => false

def isContentEndless (s : Strictness) : List (Scalar × Value) → Bool
  | [] => false
  | (k, v) :: rest =>
    if k = .text "content" then isContentEndlessFrom s v else isContentEndless s rest

def isContentEndlessFrom (s : Strictness) : Value → Bool
  | .list items => anyEndless s items
  | .again _ unrolled => match (unrolled ()).resolved with
    | .list _ => true
    | _ => false
  | _ => false

/-- A load gets to an entry only where it loads those in front. -/
def anyEndless (s : Strictness) : List Value → Bool
  | [] => false
  | v :: rest => isEndless s v || (loadEntry s v).outcome.isOk && anyEndless s rest

end

end Node

end RichText
