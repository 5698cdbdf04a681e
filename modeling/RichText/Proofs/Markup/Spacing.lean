import Mathlib.Data.List.TakeWhile
import RichText.Markup.Target

/-!
How far apart blocks stand. What counts of a text for the blocks around it is whether it holds
anything but line breaks, and how many of these stand at its end. A tree fixes both on its own, in
every dialect whose escapes, marks, markers and frames leave the end of a line as it is; so all such
dialects space blocks alike.
-/

set_option autoImplicit false
set_option relaxedAutoImplicit false

namespace RichText

def lineBreaksAtEnd (cs : List Char) : Nat := (cs.reverse.takeWhile (· = '\n')).length

private theorem lineBreaksAtEnd_eq_length_iff (cs : List Char) :
    lineBreaksAtEnd cs = cs.length ↔ ∀ c ∈ cs, c = '\n' := by
  have hwhole : lineBreaksAtEnd cs = cs.length ↔ cs.reverse.takeWhile (· = '\n') = cs.reverse := by
    have hlength : cs.reverse.length = cs.length := List.length_reverse
    rw [lineBreaksAtEnd, ← hlength]
    exact ⟨(List.takeWhile_prefix _).eq_of_length, congrArg List.length⟩
  rw [hwhole, List.takeWhile_eq_self_iff]
  simp

private theorem lineBreaksAtEnd_append (a b : List Char) :
    lineBreaksAtEnd (a ++ b) =
      if lineBreaksAtEnd b = b.length then lineBreaksAtEnd a + lineBreaksAtEnd b
      else lineBreaksAtEnd b := by
  rw [lineBreaksAtEnd, List.reverse_append, List.takeWhile_append]
  by_cases hb : lineBreaksAtEnd b = b.length
  · rw [if_pos hb, if_pos (by simpa [lineBreaksAtEnd] using hb), List.length_append,
      List.length_reverse, hb, Nat.add_comm]
    rfl
  · rw [if_neg hb, if_neg (by simpa [lineBreaksAtEnd] using hb)]
    rfl

private theorem lineBreaksAtEnd_dropLineBreaks (cs : List Char) :
    lineBreaksAtEnd (dropLineBreaks cs) = 0 := by
  rw [lineBreaksAtEnd, dropLineBreaks, List.reverse_reverse, List.length_eq_zero_iff,
    List.takeWhile_eq_nil_iff]
  intro hl
  simpa using List.dropWhile_get_zero_not (p := (· = '\n')) cs.reverse hl

private theorem length_dropLineBreaks (cs : List Char) :
    cs.length - (dropLineBreaks cs).length = lineBreaksAtEnd cs := by
  have hsplit := congrArg List.length
    (List.takeWhile_append_dropWhile (p := (· = '\n')) (l := cs.reverse))
  rw [List.length_append, List.length_reverse] at hsplit
  rw [dropLineBreaks, List.length_reverse, lineBreaksAtEnd]
  omega

/-- What counts of a text for the blocks around it: whether it holds anything but line breaks, and
the number of these at its end. -/
structure Spacing where
  solid : Bool
  breaks : Nat
  deriving DecidableEq, Repr

namespace Spacing

def blank (n : Nat) : Spacing := ⟨false, n⟩

def ended (n : Nat) : Spacing := ⟨true, n⟩

def append (a b : Spacing) : Spacing := if b.solid then b else ⟨a.solid, a.breaks + b.breaks⟩

@[simp] theorem append_ended (a : Spacing) (n : Nat) : a.append (ended n) = ended n := rfl

def ofText (cs : List Char) : Spacing := ⟨cs.any (· ≠ '\n'), lineBreaksAtEnd cs⟩

variable {a b cs : List Char} {n : Nat}

private theorem solid_ofText_iff : (ofText cs).solid = false ↔ ∀ c ∈ cs, c = '\n' := by
  simp [ofText]

private theorem ofText_append (a b : List Char) :
    ofText (a ++ b) = (ofText a).append (ofText b) := by
  have hsolid : (ofText (a ++ b)).solid = ((ofText a).solid || (ofText b).solid) :=
    List.any_append
  have hbreaks := lineBreaksAtEnd_append a b
  cases hb : (ofText b).solid with
  | false =>
    rw [if_pos ((lineBreaksAtEnd_eq_length_iff b).mpr (solid_ofText_iff.mp hb))] at hbreaks
    rw [hb, Bool.or_false] at hsolid
    rw [append, hb]
    exact congrArg₂ mk hsolid hbreaks
  | true =>
    have hother : lineBreaksAtEnd b ≠ b.length := fun h =>
      absurd (solid_ofText_iff.mpr ((lineBreaksAtEnd_eq_length_iff b).mp h)) (by simp [hb])
    rw [if_neg hother] at hbreaks
    rw [hb, Bool.or_true] at hsolid
    rw [append, if_pos hb]
    exact congrArg₂ mk (hsolid.trans hb.symm) hbreaks

private theorem ofText_eq_blank_zero_iff : ofText cs = blank 0 ↔ cs = [] := by
  constructor
  · intro h
    have hall := solid_ofText_iff.mp (congrArg solid h)
    have hbreaks : lineBreaksAtEnd cs = 0 := congrArg breaks h
    rw [(lineBreaksAtEnd_eq_length_iff cs).mpr hall] at hbreaks
    exact List.length_eq_zero_iff.mp hbreaks
  · rintro rfl
    rfl

end Spacing

open Spacing (blank ended ofText ofText_append)

/-- A list is the lines of its items; one without items is nothing. -/
def listSpacing (c : Content) : Spacing :=
  if (c.getD []).any Node.isListItem then ended 1 else blank 0

mutual

def Node.spacing : Node → Spacing
  | .doc c => contentSpacing c
  | .paragraph c =>
    if (c.getD []).isEmpty then blank 1 else (contentSpacing c).append (blank 2)
  | .bulletList c => listSpacing c
  | .orderedList _ c => listSpacing c
  | .listItem _ => ended 1
  | .text value marks => if (marks.getD []).isEmpty then ofText value.toList else ended 0

def contentSpacing : Content → Spacing
  | none => blank 0
  | some nodes => nodesSpacing nodes

def nodesSpacing : List Node → Spacing
  | [] => blank 0
  | n :: rest => n.spacing.append (nodesSpacing rest)

end

/-- A dialect in which only the text itself and the walk through the tree end lines: marks and
markers end in something else, and a list ends as its last item does. -/
structure Dialect.KeepsLineEnds (d : Dialect) : Prop where
  escape (cs : List Char) : ofText (d.escape cs) = ofText cs
  wrap (m : Mark) (cs : List Char) : ofText (d.wrap m cs) = ended 0
  itemStart (m : Marker) : ofText (d.itemStart m) = ended 0
  frame_nil (m : Marker) : d.frame m [] = []
  frame {m : Marker} {items : List Char} : ofText items = ended 1 →
    ofText (d.frame m items) = ended 1

namespace Dialect.KeepsLineEnds

variable {d : Dialect} (h : d.KeepsLineEnds)

include h

private theorem spacing_applyMarks (marks : List Mark) (cs : List Char) :
    ofText (d.applyMarks marks cs) = if marks.isEmpty then ofText cs else ended 0 := by
  induction marks generalizing cs with
  | nil => rfl
  | cons m marks ih =>
    rw [Dialect.applyMarks_cons, ih, h.wrap]
    simp

private theorem spacing_line (m : Marker) (body : List Char) :
    ofText (d.line m body) = ended 1 := by
  have hbody : (ended 0).append (ofText (dropLineBreaks body)) = ended 0 := by
    have hbreaks : (ofText (dropLineBreaks body)).breaks = 0 :=
      lineBreaksAtEnd_dropLineBreaks body
    generalize ofText (dropLineBreaks body) = s at hbreaks
    obtain ⟨solid, breaks⟩ := s
    obtain rfl : breaks = 0 := hbreaks
    cases solid <;> rfl
  rw [line, ofText_append, ofText_append, h.itemStart, hbody]
  rfl

private theorem spacing_renderItems (m : Marker) (ns : List Node) :
    ofText (d.renderItems m ns).text =
      if ns.any Node.isListItem then ended 1 else blank 0 := by
  induction ns generalizing m with
  | nil => rfl
  | cons n ns ih =>
    have hskip : ∀ k : Kind, (Rendering.skip k ++ d.renderItems m ns).text =
        (d.renderItems m ns).text := fun _ => rfl
    cases n with
    | listItem c =>
      have hitem : (d.renderItems m (.listItem c :: ns)).text =
          d.line m (d.renderContent c).text ++ (d.renderItems m.next ns).text := rfl
      rw [hitem, ofText_append, h.spacing_line, ih]
      cases ns.any Node.isListItem <;> rfl
    | doc | paragraph | bulletList | orderedList | text =>
      exact (congrArg ofText (hskip _)).trans (ih m)

private theorem spacing_frame (m : Marker) (c : Content) :
    ofText (d.frame m (d.renderList m c).text) = listSpacing c := by
  have hitems : ofText (d.renderList m c).text = listSpacing c := by
    cases c with
    | none => rfl
    | some ns => exact h.spacing_renderItems m ns
  rw [listSpacing] at hitems ⊢
  split at hitems
  · next hany => rw [if_pos hany, h.frame hitems]
  · next hany => rw [if_neg hany, Spacing.ofText_eq_blank_zero_iff.mp hitems, h.frame_nil]; rfl

end Dialect.KeepsLineEnds

variable {d : Dialect}

mutual

/-- The spacing of a written tree is that of the tree. -/
theorem spacing_render (h : d.KeepsLineEnds) : ∀ n : Node, ofText (d.render n).text = n.spacing
  | .doc c => spacing_renderContent h c
  | .paragraph c => by
    rw [Dialect.render, Dialect.paragraph, Node.spacing]
    split
    · rfl
    · have hbody := spacing_renderContent h c
      exact (ofText_append _ _).trans (by rw [hbody]; rfl)
  | .bulletList c => h.spacing_frame .bullet c
  | .orderedList a c => h.spacing_frame (.ordinal (ListAttributes.firstOrdinal a)) c
  | .listItem c => h.spacing_line .bullet (d.renderContent c).text
  | .text value marks => by
    have hrun : (d.render (.text value marks)).text =
        d.applyMarks (marks.getD []) (d.escape value.toList) := rfl
    rw [hrun, h.spacing_applyMarks, h.escape, Node.spacing]

private theorem spacing_renderContent (h : d.KeepsLineEnds) :
    ∀ c : Content, ofText (d.renderContent c).text = contentSpacing c
  | none => rfl
  | some ns => spacing_renderNodes h ns

private theorem spacing_renderNodes (h : d.KeepsLineEnds) :
    ∀ ns : List Node, ofText (d.renderNodes ns).text = nodesSpacing ns
  | [] => rfl
  | n :: rest => by
    have hn := spacing_render h n
    have hrest := spacing_renderNodes h rest
    exact (ofText_append _ _).trans (by rw [hn, hrest]; rfl)

end

private theorem ofText_flatMap {f : Char → List Char} (hf : ∀ c, ofText (f c) = ofText [c])
    (cs : List Char) : ofText (cs.flatMap f) = ofText cs := by
  induction cs with
  | nil => rfl
  | cons c cs ih =>
    rw [List.flatMap_cons, ofText_append, hf, ih, ← ofText_append]
    rfl

private theorem ofText_append_of_ended {b : List Char} {n : Nat} (hb : ofText b = ended n)
    (a : List Char) : ofText (a ++ b) = ended n := by
  rw [ofText_append, hb, Spacing.append_ended]

private theorem keepsLineEnds_markdown : Dialect.markdown.KeepsLineEnds where
  escape _ := rfl
  wrap m cs := by
    cases m with
    | bold => exact ofText_append_of_ended (b := ['*', '*']) rfl _
    | italic => exact ofText_append_of_ended (b := ['*']) rfl _
    | link a => exact ofText_append_of_ended (b := [')']) rfl _
  itemStart m := by
    cases m with
    | bullet => rfl
    | ordinal n => exact ofText_append_of_ended (b := ['.', ' ']) rfl _
  frame_nil _ := rfl
  frame h := h

private theorem ofText_escapeChar (c : Char) : ofText (Latex.escapeChar c) = ofText [c] := by
  unfold Latex.escapeChar
  split <;> rfl

private theorem ofText_command (name : String) (argument : List Char) :
    ofText (Latex.command name argument) = ended 0 :=
  ofText_append_of_ended (b := ['}']) rfl _

private theorem keepsLineEnds_latex : Dialect.latex.KeepsLineEnds where
  escape cs := ofText_flatMap ofText_escapeChar cs
  wrap m cs := by
    cases m with
    | bold => exact ofText_command "textbf" cs
    | italic => exact ofText_command "textit" cs
    | link a => exact ofText_append_of_ended (b := ['}']) rfl _
  itemStart _ := by rfl
  frame_nil _ := rfl
  frame {m items} h := by
    have hne : items.isEmpty = false := by
      cases items with
      | nil => cases h
      | cons => rfl
    have hframe : Latex.frame m items = Latex.command "begin" (Latex.environment m).1.toList ++
        (Latex.environment m).2 ++ ['\n'] ++ items ++
        Latex.command "end" (Latex.environment m).1.toList ++ ['\n'] := by
      rw [Latex.frame, hne]
      rfl
    have hend : ofText (Latex.command "end" (Latex.environment m).1.toList ++ ['\n']) =
        ended 1 := by
      rw [ofText_append, ofText_command]
      rfl
    change ofText (Latex.frame m items) = ended 1
    rw [hframe, List.append_assoc _ _ ['\n']]
    exact ofText_append_of_ended hend _

private theorem keepsLineEnds_dialect (t : Target) : t.dialect.KeepsLineEnds := by
  cases t with
  | markdown => exact keepsLineEnds_markdown
  | latex => exact keepsLineEnds_latex

private theorem ofText_markdown_eq_latex (n : Node) :
    ofText n.markdown.toList = ofText n.latex.toList := by
  rw [Node.markdown, Node.latex, String.toList_ofList, String.toList_ofList,
    spacing_render keepsLineEnds_markdown, spacing_render keepsLineEnds_latex]

private theorem eq_nil_iff_of_ofText_eq {a b : List Char} (h : ofText a = ofText b) :
    a = [] ↔ b = [] := by
  rw [← Spacing.ofText_eq_blank_zero_iff, h, Spacing.ofText_eq_blank_zero_iff]

/-- Whatever the target format, the node is written as something that ends in a single line break.
-/
def Node.EndsLine (n : Node) : Prop :=
  ∀ t : Target, (t.dialect.render n).text ≠ [] ∧ lineBreaksAtEnd (t.dialect.render n).text = 1

private theorem endsLine_of_spacing {n : Node} (h : n.spacing = ended 1) : n.EndsLine := by
  intro t
  have ht := (spacing_render (keepsLineEnds_dialect t) n).trans h
  refine ⟨?_, congrArg Spacing.breaks ht⟩
  intro hnil
  rw [hnil] at ht
  cases ht

private theorem endsLine_list_iff {n : Node} {c : Content} (h : n.spacing = listSpacing c) :
    n.EndsLine ↔ (c.getD []).any Node.isListItem = true := by
  rw [listSpacing] at h
  constructor
  · intro hends
    by_contra hany
    rw [if_neg hany] at h
    have hnil := (spacing_render keepsLineEnds_markdown n).trans h
    exact (hends .markdown).1 (Spacing.ofText_eq_blank_zero_iff.mp hnil)
  · intro hany
    rw [if_pos hany] at h
    exact endsLine_of_spacing h

/-- Blocks are spaced alike in both dialects. A tree is written as nothing, as line breaks alone,
and with so many line breaks at its end in both or in neither, so that the body of an item loses as
many of them in both; and an item, or a list with an item, is something that ends in a single line
break, whatever it holds. -/
theorem blocks_spaced_alike :
    (∀ n : Node, (n.markdown = "" ↔ n.latex = "") ∧
      ((∀ c ∈ n.markdown.toList, c = '\n') ↔ ∀ c ∈ n.latex.toList, c = '\n') ∧
      lineBreaksAtEnd n.markdown.toList = lineBreaksAtEnd n.latex.toList) ∧
    (∀ c : Content, let body := (Dialect.markdown.renderContent c).text
      let other := (Dialect.latex.renderContent c).text
      body.length - (dropLineBreaks body).length = other.length - (dropLineBreaks other).length) ∧
    (∀ c : Content, (Node.listItem c).EndsLine) ∧
    (∀ c : Content, (Node.bulletList c).EndsLine ↔ (c.getD []).any Node.isListItem) ∧
    ∀ (a : Option ListAttributes) (c : Content),
      (Node.orderedList a c).EndsLine ↔ (c.getD []).any Node.isListItem := by
  refine ⟨fun n => ?_, fun c => ?_, fun c => ?_, fun c => ?_, fun a c => ?_⟩
  · have h := ofText_markdown_eq_latex n
    refine ⟨?_, ?_, congrArg Spacing.breaks h⟩
    · rw [← String.toList_eq_nil_iff, ← String.toList_eq_nil_iff]
      exact eq_nil_iff_of_ofText_eq h
    · rw [← Spacing.solid_ofText_iff, h, Spacing.solid_ofText_iff]
  · have h := (spacing_renderContent keepsLineEnds_markdown c).trans
      (spacing_renderContent keepsLineEnds_latex c).symm
    simp only [length_dropLineBreaks]
    exact congrArg Spacing.breaks h
  · exact endsLine_of_spacing rfl
  · exact endsLine_list_iff rfl
  · exact endsLine_list_iff rfl

/-- A text of line breaks in the last item of a list, and an empty item, add no line break. -/
example :
    let list := Node.orderedList none (some [.listItem none,
      .listItem (some [.text "a" none, .text "\n\n" (some []), .paragraph none])])
    list.markdown = "1. \n2. a\n" ∧
      list.latex = "\\begin\x7benumerate\x7d\n\\item \n\\item a\n\\end\x7benumerate\x7d\n" := by
  decide

end RichText
