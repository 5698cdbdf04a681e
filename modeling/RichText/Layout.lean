import RichText.Arguments
import RichText.Text.Quoted

/-!
Layouts: the widths that a dialect may use. A layout belongs to one family, the shared one or that
of a dialect, and never changes; an update makes a new one of the same family.
-/

set_option autoImplicit false
set_option relaxedAutoImplicit false

namespace RichText

inductive Layout.Family
  | shared
  | markdown
  | latex
  deriving DecidableEq, Repr

/-- A line width of zero means that lines are not broken. -/
structure Layout where
  family : Layout.Family
  indentWidth : Nat := 2
  lineWidth : Nat := 0
  deriving DecidableEq, Repr

namespace Layout

def Family.title : Family → String
  | .shared => "CodeGenerationContext"
  | .markdown => "MarkdownContext"
  | .latex => "LatexContext"

inductive Field
  | indentWidth
  | lineWidth
  deriving DecidableEq, Repr

def Field.name : Field → String
  | .indentWidth => "indent_width"
  | .lineWidth => "line_width"

/-- The parameters of a layout; none has to be stated. -/
def parameters : List Parameter :=
  [Field.indentWidth, Field.lineWidth].map fun f => { name := f.name, isRequired := false }

inductive Error
  | arguments (error : ArgumentError)
  | negative (field : Field) (value : Int)
  | frozen (name : String)
  /-- Something was asked of a layout where there is none. -/
  | absent (name : String)
  | fixed (name : String)
  | fixedClass
  deriving DecidableEq, Repr

def Error.message : Error → String
  | .arguments e => e.message
  | .negative field value => s!"{field.name} must be non-negative, got {value}"
  | .frozen name => s!"cannot assign to field {Text.quoted name}"
  | .absent name => s!"'NoneType' object has no attribute '{name}'"
  | .fixed name => s!"'NoneType' object attribute '{name}' is read-only"
  | .fixedClass => "__class__ must be set to a class, not 'int' object"

def get (l : Layout) : Field → Nat
  | .indentWidth => l.indentWidth
  | .lineWidth => l.lineWidth

/-- The value stated for a field, or the given one; the last statement counts. -/
def stated (field : Field) (default : Nat) (settings : List (String × Int)) : Int :=
  settings.foldl (fun v s => if s.1 = field.name then s.2 else v) default

def width (field : Field) (value : Int) : Except Error Nat :=
  if value < 0 then .error (.negative field value) else .ok value.toNat

/-- A layout of a family with some settings other than the given ones. Names are checked before
widths, and the indentation before the line. -/
def build (family : Family) (indentWidth lineWidth : Nat) (settings : List (String × Int)) :
    Except Error Layout := do
  match checkArguments (family.title ++ ".__init__") parameters (settings.map Prod.fst) with
  | .error e => .error (.arguments e)
  | .ok _ => do
    let indentWidth ← width .indentWidth (stated .indentWidth indentWidth settings)
    let lineWidth ← width .lineWidth (stated .lineWidth lineWidth settings)
    .ok { family, indentWidth, lineWidth }

def make (family : Family) (settings : List (String × Int)) : Except Error Layout :=
  let usual : Layout := { family }
  build family usual.indentWidth usual.lineWidth settings

/-- The names that an update gives to the layout itself, in the order in which they are noticed. -/
def ownNames : List (String × String) :=
  [("create_updated_context", "context"), ("CloneFrozenMixin.create_updated", "self")]

def update (l : Layout) (settings : List (String × Int)) : Except Error Layout :=
  match ownNames.find? fun n => (settings.map Prod.fst).contains n.2 with
  | some (owner, name) => .error (.arguments (.repeated owner name))
  | none => build l.family l.indentWidth l.lineWidth settings

/-- Setting a field is always refused. -/
def assign (_ : Layout) (name : String) (_ : Int) : Except Error Layout := .error (.frozen name)

/-! The layout in use, which may be absent. -/

/-- What even an absent layout has. -/
def fixedNames : List String := [
  "__bool__", "__delattr__", "__dir__", "__doc__", "__eq__", "__format__", "__ge__",
  "__getattribute__", "__getstate__", "__gt__", "__hash__", "__init__", "__init_subclass__",
  "__le__", "__lt__", "__ne__", "__new__", "__reduce__", "__reduce_ex__", "__repr__",
  "__setattr__", "__sizeof__", "__str__", "__subclasshook__"]

def updateCurrent (current : Option Layout) (settings : List (String × Int)) :
    Except Error Layout :=
  match current with
  | some l => l.update settings
  | none =>
    if (settings.map Prod.fst).contains "context" then
      .error (.arguments (.repeated "create_updated_context" "context"))
    else .error (.absent "create_updated")

def assignCurrent (current : Option Layout) (name : String) (value : Int) : Except Error Layout :=
  match current with
  | some l => l.assign name value
  | none =>
    if name = "__class__" then .error .fixedClass
    else if fixedNames.contains name then .error (.fixed name)
    else .error (.absent name)

end Layout

end RichText
