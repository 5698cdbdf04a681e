import RichText.Proofs.Tree.Loading

/-!
What a load meets in a value, in the order in which it goes through it. An entry of unknown type is
stray and nothing below it is looked at; a field of the wrong shape is a defect. The findings of a
value and the tree that it describes apart from them decide every load, strict and lenient.
-/

set_option autoImplicit false
set_option relaxedAutoImplicit false

namespace RichText

def LoadWarning.error : LoadWarning → LoadError
  | .missingType => .missingType
  | .unknownNode type => .unknownNode type
  | .unknownMark type => .unknownMark type

/-- A stray entry, or a defect that no load accepts. -/
inductive Finding
  | stray (warning : LoadWarning)
  | defect (error : LoadError)

namespace Finding

def error : Finding → LoadError
  | .stray w => w.error
  | .defect e => e

def warning? : Finding → Option LoadWarning
  | .stray w => some w
  | .defect _ => none

def isStray (f : Finding) : Bool := f.warning?.isSome

def isDefect (f : Finding) : Bool := !f.isStray

end Finding

/-- A value described beside findings: the first one that is no warning ends the load. -/
def Loading.judged {α : Type} (s : Strictness) (a : α) : List Finding → Loading α
  | [] => .ok a
  | .defect e :: _ => .fail e
  | .stray w :: fs => match s with
    | .strict => .fail w.error
    | .lenient => ⟨w :: (judged s a fs).warnings, (judged s a fs).outcome⟩

def attributesFindings (entries : List (Scalar × Value)) : List Finding :=
  match Value.field? "attrs" entries with
  | none => []
  | some .null => []
  | some (.mapping _) => []
  | some v => [.defect (.notAMapping .attributes v)]

def attributes? (entries : List (Scalar × Value)) : Option (List (Scalar × Value)) :=
  match Value.field? "attrs" entries with
  | some (.mapping attributes) => some attributes
  | _ => none

namespace Mark

def fieldFindings (field : LinkField) (attributes : List (Scalar × Value)) : List Finding :=
  match Value.field? field.name attributes with
  | none => []
  | some .null => []
  | some (.text _) => []
  | some v => [.defect (.linkFieldNotText field v)]

def field? (field : LinkField) (attributes : List (Scalar × Value)) : Option String :=
  match Value.field? field.name attributes with
  | some (.text s) => some s
  | _ => none

def linkFindings (entries : List (Scalar × Value)) : List Finding :=
  attributesFindings entries ++ match attributes? entries with
    | none => []
    | some attributes =>
      [LinkField.href, .className, .target].flatMap fun field => fieldFindings field attributes

def linkAttributes (attributes : List (Scalar × Value)) : LinkAttributes where
  href := field? .href attributes
  className := field? .className attributes
  target := field? .target attributes

def kindFindings (entries : List (Scalar × Value)) : Kind → List Finding
  | .bold => []
  | .italic => []
  | .link => linkFindings entries

def findings : Value → List Finding
  | .mapping entries => match statedKind? (statedType entries) with
    | none => [.stray (.unknownMark (statedType entries))]
    | some k => kindFindings entries k
  | .again _ unrolled => findings (unrolled ())
  | v => [.defect (.notAMapping .mark v)]

def ofKind (entries : List (Scalar × Value)) : Kind → Mark
  | .bold => .bold
  | .italic => .italic
  | .link => .link ((attributes? entries).map linkAttributes)

def ofValue? : Value → Option Mark
  | .mapping entries => (statedKind? (statedType entries)).map (ofKind entries)
  | .again _ unrolled => ofValue? (unrolled ())
  | _ => none

end Mark

namespace Node

def marksFindings (entries : List (Scalar × Value)) : List Finding :=
  match Value.field? "marks" entries with
  | none => []
  | some .null => []
  | some (.list items) => items.flatMap Mark.findings
  | some v => [.defect (.notAList .marks v)]

def marks? (entries : List (Scalar × Value)) : Option (List Mark) :=
  match Value.field? "marks" entries with
  | some (.list items) => some (items.filterMap Mark.ofValue?)
  | _ => none

def textFindings (entries : List (Scalar × Value)) : List Finding :=
  match (Value.field? "text" entries).getD (.text "") with
  | .text _ => []
  | v => [.defect (.textNotText v)]

def textOf (entries : List (Scalar × Value)) : String :=
  match Value.field? "text" entries with
  | some (.text s) => s
  | _ => ""

def startFindings (attributes : List (Scalar × Value)) : List Finding :=
  match Value.field? "start" attributes with
  | none => []
  | some .null => []
  | some (.int _) => []
  | some v => [.defect (.startNotInteger v)]

def listAttributes (attributes : List (Scalar × Value)) : ListAttributes where
  start := match Value.field? "start" attributes with
    | some (.int n) => some n
    | _ => none

def listFindings (entries : List (Scalar × Value)) : List Finding :=
  attributesFindings entries ++ match attributes? entries with
    | none => []
    | some attributes => startFindings attributes

/-- The findings of a mapping of some kind, with those of its content. The attributes of a list come
before its content, and the text of a run of text before its marks. -/
def kindFindings (entries : List (Scalar × Value)) (content : List Finding) :
    Kind → List Finding
  | .text => textFindings entries ++ marksFindings entries
  | .orderedList => listFindings entries ++ content
  | _ => content

mutual

/-- The findings of an entry. Below an entry without a known type there are none. -/
def findings : Value → List Finding
  | .mapping entries =>
    if (statedType entries).isFalsy then [.stray .missingType]
    else match statedKind? (statedType entries) with
      | none => [.stray (.unknownNode (statedType entries))]
      | some k => kindFindings entries (contentFindings entries) k
  | .again _ unrolled => findings (unrolled ())
  | v => [.defect (.notAMapping .node v)]

def contentFindings : List (Scalar × Value) → List Finding
  | [] => []
  | (k, v) :: rest =>
    if k = .text "content" then contentFindingsFrom v else contentFindings rest

def contentFindingsFrom : Value → List Finding
  | .null => []
  | .list items => itemsFindings items
  | .again _ unrolled => contentFindingsFrom (unrolled ())
  | v => [.defect (.notAList .content v)]

def itemsFindings : List Value → List Finding
  | [] => []
  | v :: rest => findings v ++ itemsFindings rest

end

def ofKind (entries : List (Scalar × Value)) (content : Content) : Kind → Node
  | .doc => .doc content
  | .paragraph => .paragraph content
  | .bulletList => .bulletList content
  | .orderedList => .orderedList ((attributes? entries).map listAttributes) content
  | .listItem => .listItem content
  | .text => .text (textOf entries) (marks? entries)

mutual

def ofValue? : Value → Option Node
  | .mapping entries =>
    (statedKind? (statedType entries)).map (ofKind entries (contentOf entries))
  | .again _ unrolled => ofValue? (unrolled ())
  | _ => none

def contentOf : List (Scalar × Value) → Content
  | [] => none
  | (k, v) :: rest => if k = .text "content" then contentFrom v else contentOf rest

def contentFrom : Value → Content
  | .list items => some (ofValues items)
  | .again _ unrolled => contentFrom (unrolled ())
  | _ => none

def ofValues : List Value → List Node
  | [] => []
  | v :: rest => (ofValue? v).toList ++ ofValues rest

end

end Node

end RichText
