import Mathlib.Data.List.Forall2
import RichText.Markup.Target

/-!
Marks in Markdown. Strong text and emphasis are both asterisks on either side of a text, so that
between two links only their number shows; a link encloses all that the marks before it have made.
-/

set_option autoImplicit false
set_option relaxedAutoImplicit false

namespace RichText

namespace Mark

/-- Marks cut at their links: those before the first link, and each link with the marks between it
and the next. -/
structure Cut where
  innermost : List Mark
  outer : List (Option LinkAttributes × List Mark)
  deriving DecidableEq, Repr

def cut : List Mark → Cut
  | [] => ⟨[], []⟩
  | .link a :: ms => ⟨[], (a, (cut ms).innermost) :: (cut ms).outer⟩
  | m :: ms => ⟨m :: (cut ms).innermost, (cut ms).outer⟩

/-- The asterisks on either side of a text that marks without links stand for. -/
def asterisks (segment : List Mark) : Nat := 2 * segment.count .bold + segment.count .italic

namespace Cut

def segments (c : Cut) : List (List Mark) := c.innermost :: c.outer.map Prod.snd

def joined (s : Option LinkAttributes × List Mark) : List Mark := .link s.1 :: s.2

def marks (c : Cut) : List Mark := c.innermost ++ c.outer.flatMap joined

/-- The same links with the same marks between them, each time in any order. -/
structure Permuted (c e : Cut) : Prop where
  innermost : c.innermost.Perm e.innermost
  outer : List.Forall₂ (fun s r => s.1 = r.1 ∧ s.2.Perm r.2) c.outer e.outer

end Cut

private theorem marks_cut (ms : List Mark) : (cut ms).marks = ms := by
  induction ms with
  | nil => rfl
  | cons m ms ih =>
    cases m with
    | bold => exact congrArg (.bold :: ·) ih
    | italic => exact congrArg (.italic :: ·) ih
    | link a => exact congrArg (.link a :: ·) ih

private theorem link_not_mem_cut {ms segment : List Mark} (h : segment ∈ (cut ms).segments)
    (a : Option LinkAttributes) : .link a ∉ segment := by
  induction ms generalizing segment with
  | nil =>
    have hnil : segment = [] := List.mem_singleton.mp h
    simp [hnil]
  | cons m ms ih =>
    have hinnermost : .link a ∉ (cut ms).innermost := ih List.mem_cons_self
    cases m with
    | bold | italic =>
      rcases List.mem_cons.mp h with rfl | houter
      · simpa [cut] using hinnermost
      · exact ih (List.mem_cons_of_mem _ houter)
    | link b =>
      rcases List.mem_cons.mp h with rfl | hsegment
      · simp [cut]
      · exact ih hsegment

private theorem asterisks_bold (segment : List Mark) :
    asterisks (.bold :: segment) = 2 + asterisks segment := by
  have hbold : (Mark.bold :: segment).count .bold = segment.count .bold + 1 := List.count_cons_self
  have hitalic : (Mark.bold :: segment).count .italic = segment.count .italic :=
    List.count_cons_of_ne (by decide)
  rw [asterisks, asterisks, hbold, hitalic]
  omega

private theorem asterisks_italic (segment : List Mark) :
    asterisks (.italic :: segment) = 1 + asterisks segment := by
  have hbold : (Mark.italic :: segment).count .bold = segment.count .bold :=
    List.count_cons_of_ne (by decide)
  have hitalic : (Mark.italic :: segment).count .italic = segment.count .italic + 1 :=
    List.count_cons_self
  rw [asterisks, asterisks, hbold, hitalic]
  omega

private theorem asterisks_perm {segment other : List Mark} (h : segment.Perm other) :
    asterisks segment = asterisks other := by
  rw [asterisks, asterisks, h.count_eq, h.count_eq]

end Mark

namespace Markdown

def starred (n : Nat) (t : List Char) : List Char :=
  List.replicate n '*' ++ t ++ List.replicate n '*'

private theorem starred_starred (m n : Nat) (t : List Char) :
    starred n (starred m t) = starred (m + n) t := by
  have hleft : List.replicate (m + n) '*' = List.replicate n '*' ++ List.replicate m '*' := by
    rw [List.replicate_append_replicate, Nat.add_comm]
  have hright : List.replicate (m + n) '*' = List.replicate m '*' ++ List.replicate n '*' :=
    List.replicate_append_replicate.symm
  calc starred n (starred m t)
      = (List.replicate n '*' ++ List.replicate m '*') ++ t ++
          (List.replicate m '*' ++ List.replicate n '*') := by
        simp only [starred, List.append_assoc]
    _ = starred (m + n) t := by rw [← hleft, ← hright, starred]

def linked (href : String) (t : List Char) : List Char :=
  ['['] ++ t ++ [']', '('] ++ href.toList ++ [')']

/-- What marks put around a text: asterisks, and outside of them each link with asterisks around
it. -/
structure Layers where
  innermost : Nat
  outer : List (String × Nat)
  deriving DecidableEq, Repr

def Layers.enclose (t : List Char) (layer : String × Nat) : List Char :=
  starred layer.2 (linked layer.1 t)

/-- The text in its layers, from the innermost to the last. -/
def Layers.around (l : Layers) (t : List Char) : List Char :=
  l.outer.foldl enclose (starred l.innermost t)

end Markdown

open Markdown

def Mark.Cut.layer (s : Option LinkAttributes × List Mark) : String × Nat :=
  (LinkAttributes.destination s.1, asterisks s.2)

def Mark.Cut.layers (c : Cut) : Layers where
  innermost := asterisks c.innermost
  outer := c.outer.map layer

private theorem Mark.Cut.Permuted.layers_eq {c e : Cut} (h : c.Permuted e) :
    c.layers = e.layers := by
  have hinnermost : asterisks c.innermost = asterisks e.innermost := asterisks_perm h.innermost
  have houter : c.layers.outer = e.layers.outer := by
    rw [← List.forall₂_eq_eq_eq]
    rw [layers, layers, List.forall₂_map_left_iff, List.forall₂_map_right_iff]
    refine h.outer.imp ?_
    intro s r hsr
    rw [layer, layer, hsr.1, asterisks_perm hsr.2]
  exact congrArg₂ Layers.mk hinnermost houter

namespace Dialect

private theorem applyMarks_segment {segment : List Mark} (h : ∀ a, .link a ∉ segment)
    (t : List Char) : markdown.applyMarks segment t = starred (Mark.asterisks segment) t := by
  induction segment generalizing t with
  | nil => exact (List.append_nil t).symm
  | cons m segment ih =>
    have hrest : ∀ a, .link a ∉ segment := fun a ha => h a (List.mem_cons_of_mem m ha)
    rw [applyMarks_cons, ih hrest]
    cases m with
    | bold =>
      have hwrap : markdown.wrap .bold t = starred 2 t := rfl
      rw [hwrap, starred_starred, Mark.asterisks_bold]
    | italic =>
      have hwrap : markdown.wrap .italic t = starred 1 t := rfl
      rw [hwrap, starred_starred, Mark.asterisks_italic]
    | link a => exact absurd List.mem_cons_self (h a)

private theorem applyMarks_joined {s : Option LinkAttributes × List Mark} (h : ∀ a, .link a ∉ s.2)
    (t : List Char) : markdown.applyMarks (Mark.Cut.joined s) t =
      Layers.enclose t (Mark.Cut.layer s) := by
  rw [Mark.Cut.joined, applyMarks_cons, applyMarks_segment h]
  rfl

private theorem applyMarks_flatMap_joined {ss : List (Option LinkAttributes × List Mark)}
    (h : ∀ s ∈ ss, ∀ a, .link a ∉ s.2) (t : List Char) :
    markdown.applyMarks (ss.flatMap Mark.Cut.joined) t =
      (ss.map Mark.Cut.layer).foldl Layers.enclose t := by
  induction ss generalizing t with
  | nil => rfl
  | cons s ss ih =>
    have hs : ∀ a, .link a ∉ s.2 := h s List.mem_cons_self
    have hrest : ∀ r ∈ ss, ∀ a, .link a ∉ r.2 := fun r hr => h r (List.mem_cons_of_mem s hr)
    rw [List.flatMap_cons, applyMarks_append, applyMarks_joined hs, ih hrest]
    rfl

/-- Marks are the layers of their cut around a text. -/
theorem applyMarks_markdown (ms : List Mark) (t : List Char) :
    markdown.applyMarks ms t = (Mark.cut ms).layers.around t := by
  have hinnermost : ∀ a, .link a ∉ (Mark.cut ms).innermost :=
    Mark.link_not_mem_cut List.mem_cons_self
  have houter : ∀ s ∈ (Mark.cut ms).outer, ∀ a, .link a ∉ s.2 := by
    intro s hs
    exact Mark.link_not_mem_cut (List.mem_cons_of_mem _ (List.mem_map_of_mem hs))
  -- by the pieces of the cut: along the list itself a segment would grow at its inner end
  calc markdown.applyMarks ms t
      = markdown.applyMarks (Mark.cut ms).marks t := by rw [Mark.marks_cut]
    _ = markdown.applyMarks ((Mark.cut ms).outer.flatMap Mark.Cut.joined)
          (markdown.applyMarks (Mark.cut ms).innermost t) := applyMarks_append _ _ _ _
    _ = (Mark.cut ms).layers.around t := by
        rw [applyMarks_segment hinnermost, applyMarks_flatMap_joined houter]
        rfl

private theorem applyMarks_bold (front rest : List Mark) (t : List Char) :
    markdown.applyMarks (front ++ .bold :: rest) t =
      markdown.applyMarks (front ++ .italic :: .italic :: rest) t := by
  rw [applyMarks_append, applyMarks_append, applyMarks_cons, applyMarks_cons, applyMarks_cons]
  have htwice : ∀ s, markdown.wrap .italic (markdown.wrap .italic s) = markdown.wrap .bold s :=
    fun s => starred_starred 1 1 s
  rw [htwice]

end Dialect

private theorem markdown_text (value : String) (marks : Option (List Mark)) :
    (Node.text value marks).markdown =
      String.ofList (Dialect.markdown.applyMarks (marks.getD []) value.toList) := rfl

/-- In Markdown the marks of a run of text show nothing but the number of asterisks between their
links: the run is its text in layers, the first innermost, each link around all before it and each
segment of marks without links as two asterisks for strong text and one for emphasis on either side.
So the marks of a segment may stand in any order, and strong text is emphasis twice. In both
dialects the marks behind others wrap what those have made. -/
theorem asterisks_between_links :
    (∀ ms, (Mark.cut ms).marks = ms ∧
      ∀ segment ∈ (Mark.cut ms).segments, ∀ a, .link a ∉ segment) ∧
    (∀ value marks, (Node.text value marks).markdown =
      String.ofList ((Mark.cut (marks.getD [])).layers.around value.toList)) ∧
    (∀ value ms ks, (Mark.cut ms).Permuted (Mark.cut ks) →
      (Node.text value (some ms)).markdown = (Node.text value (some ks)).markdown) ∧
    (∀ value front rest, (Node.text value (some (front ++ .bold :: rest))).markdown =
      (Node.text value (some (front ++ .italic :: .italic :: rest))).markdown) ∧
    ∀ (t : Target) (ms ks : List Mark),
      (∀ text, t.dialect.applyMarks (ms ++ ks) text =
        t.dialect.applyMarks ks (t.dialect.applyMarks ms text)) ∧
      ∀ (layout : Option Layout) (value : String),
        t.render layout (.text value (some (ms ++ ks))) =
          (t.render layout (.text value (some ms))).map (·.mapText (t.dialect.applyMarks ks)) := by
  refine ⟨?_, ?_, ?_, ?_, ?_⟩
  · intro ms
    exact ⟨Mark.marks_cut ms, fun segment h a => Mark.link_not_mem_cut h a⟩
  · intro value marks
    rw [markdown_text, Dialect.applyMarks_markdown]
  · intro value ms ks h
    have hlayers : (Mark.cut ms).layers = (Mark.cut ks).layers := h.layers_eq
    rw [markdown_text, markdown_text, Dialect.applyMarks_markdown, Dialect.applyMarks_markdown]
    exact congrArg (fun l : Layers => String.ofList (l.around value.toList)) hlayers
  · intro value front rest
    exact congrArg String.ofList (Dialect.applyMarks_bold front rest value.toList)
  · intro t ms ks
    refine ⟨t.dialect.applyMarks_append ms ks, ?_⟩
    intro layout value
    have hrun : t.dialect.render (.text value (some (ms ++ ks))) =
        (t.dialect.render (.text value (some ms))).mapText (t.dialect.applyMarks ks) :=
      congrArg Rendering.ofText (t.dialect.applyMarks_append ms ks _)
    rcases t.render_all_or_none layout with hrender | ⟨f, hrender⟩
    · rw [hrender, hrender, hrun]
      rfl
    · rw [hrender, hrender]
      rfl

theorem asterisks_between_links_mixed :
    let link := Mark.link (some { href := some "u" })
    let ms := [Mark.bold, .italic, link, .italic, .bold, .bold]
    let ks := [Mark.italic, .bold, link, .bold, .italic, .bold]
    (Mark.cut ms).Permuted (Mark.cut ks) ∧
      (Node.text "t" (some ms)).markdown = (Node.text "t" (some ks)).markdown ∧
      (Node.text "t" (some ms)).markdown = "*****[***t***](u)*****" := by
  intro link ms ks
  have hpermuted : (Mark.cut ms).Permuted (Mark.cut ks) :=
    ⟨by decide, .cons ⟨rfl, by decide⟩ .nil⟩
  obtain ⟨-, -, hsame, -⟩ := asterisks_between_links
  exact ⟨hpermuted, hsame "t" ms ks hpermuted, by decide⟩

end RichText
