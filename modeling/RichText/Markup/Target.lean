import RichText.Failure
import RichText.Markup.Latex
import RichText.Markup.Markdown

/-!
The target formats by name, and writing a tree in one of them under a layout.
-/

set_option autoImplicit false
set_option relaxedAutoImplicit false

namespace RichText

inductive Target
  | markdown
  | latex
  deriving DecidableEq, Repr

namespace Target

def name : Target → String
  | .markdown => "markdown"
  | .latex => "latex"

def names : List String := ["latex", "markdown"]

def ofName? (s : String) : Option Target :=
  [Target.markdown, .latex].find? fun t => t.name = s

def unsupported (s : String) : Failure := { reason := .format (some s) (some names) none }

def ofName (s : String) : Except Failure Target :=
  match ofName? s with
  | some t => .ok t
  | none => .error (unsupported s)

def dialect : Target → Dialect
  | .markdown => .markdown
  | .latex => .latex

def family : Target → Layout.Family
  | .markdown => .markdown
  | .latex => .latex

/-- A layout fits a target if it is shared or made for that target. -/
def accepts (t : Target) (l : Layout) : Bool := l.family = .shared || l.family = t.family

/-- Writes a tree; a layout made for another target is refused, and any other changes nothing. -/
def render (t : Target) (layout : Option Layout) (n : Node) : Except Failure Rendering :=
  match layout with
  | none => .ok (t.dialect.render n)
  | some l =>
    if t.accepts l then .ok (t.dialect.render n)
    else .error { reason := .layout t.name t.family l.family none }

/-- A layout lets a target write every tree or none. -/
theorem render_all_or_none (t : Target) (layout : Option Layout) :
    (∀ n, t.render layout n = .ok (t.dialect.render n)) ∨
      ∃ f, ∀ n, t.render layout n = .error f := by
  cases layout with
  | none => exact .inl fun _ => rfl
  | some l =>
    by_cases h : t.accepts l
    · exact .inl fun _ => if_pos h
    · exact .inr ⟨_, fun _ => if_neg h⟩

end Target

def skippedMessage (k : Kind) : String :=
  s!"Skipping non-listItem entry in list content: {k.title}"

def Node.markdown (n : Node) : String := String.ofList (Dialect.markdown.render n).text

def Node.latex (n : Node) : String := String.ofList (Dialect.latex.render n).text

end RichText
