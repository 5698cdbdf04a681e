import Mathlib.Logic.Relation
import RichText.Markup.Target

/-!
Runs of text next to each other. Two runs without marks are written as the one run of both texts,
wherever they stand: escaping goes character by character, no node counts its children, and whatever
encloses the runs sees only what they are written as.
-/

set_option autoImplicit false
set_option relaxedAutoImplicit false

namespace RichText

/-- Two runs of text without marks, next to each other anywhere in a tree, are put together. A run
without marks has none or an empty list of them. -/
inductive Node.Merges : Node → Node → Prop
  | here (n : Node) (front rest : List Node) (a b : String) {ms ks js : Option (List Mark)} :
      ms.getD [] = [] → ks.getD [] = [] → js.getD [] = [] →
      Merges (n.withContent (some (front ++ .text a ms :: .text b ks :: rest)))
        (n.withContent (some (front ++ .text (a ++ b) js :: rest)))
  | inside (n : Node) (front rest : List Node) {x y : Node} : Merges x y →
      Merges (n.withContent (some (front ++ x :: rest)))
        (n.withContent (some (front ++ y :: rest)))

structure Dialect.EscapesApart (d : Dialect) : Prop where
  escape_append (a b : List Char) : d.escape (a ++ b) = d.escape a ++ d.escape b

/-- Two contents that are written alike in whatever node they stand. -/
structure Dialect.SameContent (d : Dialect) (c e : Content) : Prop where
  body : (d.renderContent c).text = (d.renderContent e).text
  items (m : Marker) : (d.renderList m c).text = (d.renderList m e).text
  isEmpty_eq : (c.getD []).isEmpty = (e.getD []).isEmpty

structure Dialect.SameEntry (d : Dialect) (x y : Node) : Prop where
  text : (d.render x).text = (d.render y).text
  item (m : Marker) (rest : List Node) :
    (d.renderItems m (x :: rest)).text = (d.renderItems m (y :: rest)).text

namespace Dialect

variable {d : Dialect} {c e : Content} {x y : Node}

private theorem text_renderNodes_cons (n : Node) (ns : List Node) :
    (d.renderNodes (n :: ns)).text = (d.render n).text ++ (d.renderNodes ns).text := rfl

private theorem text_renderNodes_append (xs ys : List Node) :
    (d.renderNodes (xs ++ ys)).text = (d.renderNodes xs).text ++ (d.renderNodes ys).text := by
  induction xs with
  | nil => rfl
  | cons x xs ih =>
    rw [List.cons_append, text_renderNodes_cons, text_renderNodes_cons, ih, List.append_assoc]

private theorem text_render_run (s : String) {ms : Option (List Mark)} (h : ms.getD [] = []) :
    (d.render (.text s ms)).text = d.escape s.toList := by
  rw [render, run, h]
  rfl

private theorem text_renderItems_append_congr {xs ys : List Node}
    (h : ∀ m, (d.renderItems m xs).text = (d.renderItems m ys).text) (front : List Node)
    (m : Marker) :
    (d.renderItems m (front ++ xs)).text = (d.renderItems m (front ++ ys)).text := by
  induction front generalizing m with
  | nil => exact h m
  | cons n front ih =>
    rw [List.cons_append, List.cons_append, renderItems_cons, renderItems_cons]
    split
    · exact congrArg (d.line m (d.renderContent n.content).text ++ ·) (ih m.next)
    · exact ih m

private theorem SameContent.sameEntry (h : d.SameContent c e) (n : Node) :
    d.SameEntry (n.withContent c) (n.withContent e) where
  text := by
    cases n with
    | doc => exact h.body
    | paragraph =>
      rw [Node.withContent, Node.withContent, render, render, paragraph, paragraph, h.isEmpty_eq]
      split
      · rfl
      · exact congrArg (· ++ ['\n', '\n']) h.body
    | bulletList => exact congrArg (d.frame .bullet) (h.items .bullet)
    | orderedList a =>
      let first := Marker.ordinal (ListAttributes.firstOrdinal a)
      exact congrArg (d.frame first) (h.items first)
    | listItem => exact congrArg (d.line .bullet) h.body
    | text => rfl
  item m rest := by
    cases n with
    | listItem => exact congrArg (d.line m · ++ (d.renderItems m.next rest).text) h.body
    | doc | paragraph | bulletList | orderedList | text => rfl

private theorem SameEntry.sameContent (h : d.SameEntry x y) (front rest : List Node) :
    d.SameContent (some (front ++ x :: rest)) (some (front ++ y :: rest)) where
  body := by
    rw [renderContent, renderContent, text_renderNodes_append, text_renderNodes_append,
      text_renderNodes_cons, text_renderNodes_cons, h.text]
  items m := text_renderItems_append_congr (fun m => h.item m rest) front m
  isEmpty_eq := by cases front <;> rfl

private theorem sameContent_merged (hd : d.EscapesApart) (front rest : List Node) (a b : String)
    {ms ks js : Option (List Mark)} (hms : ms.getD [] = []) (hks : ks.getD [] = [])
    (hjs : js.getD [] = []) :
    d.SameContent (some (front ++ .text a ms :: .text b ks :: rest))
      (some (front ++ .text (a ++ b) js :: rest)) where
  body := by
    rw [renderContent, renderContent, text_renderNodes_append, text_renderNodes_append,
      text_renderNodes_cons, text_renderNodes_cons, text_renderNodes_cons, text_render_run a hms,
      text_render_run b hks, text_render_run (a ++ b) hjs, String.toList_append, hd.escape_append,
      List.append_assoc]
  items m := by
    have hskipped : ∀ m, (d.renderItems m (.text a ms :: .text b ks :: rest)).text =
        (d.renderItems m (.text (a ++ b) js :: rest)).text := fun _ => rfl
    exact text_renderItems_append_congr hskipped front m
  isEmpty_eq := by cases front <;> rfl

end Dialect

/-- Putting two runs together changes nothing in what is written around them. -/
theorem Node.Merges.sameEntry {d : Dialect} (hd : d.EscapesApart) {x y : Node}
    (h : x.Merges y) : d.SameEntry x y := by
  -- on the way down to the runs; equal text alone would not do, as a list passes over all but items
  induction h with
  | here n front rest a b hms hks hjs =>
    exact (Dialect.sameContent_merged hd front rest a b hms hks hjs).sameEntry n
  | inside n front rest _ ih => exact (ih.sameContent front rest).sameEntry n

private theorem escapesApart_markdown : Dialect.markdown.EscapesApart where
  escape_append _ _ := rfl

private theorem escapesApart_latex : Dialect.latex.EscapesApart where
  escape_append _ _ := List.flatMap_append

private theorem escapesApart_dialect (t : Target) : t.dialect.EscapesApart := by
  cases t with
  | markdown => exact escapesApart_markdown
  | latex => exact escapesApart_latex

/-- Runs of text may be split and put together. Two trees are written as the same text, in both
dialects and whatever the layout, if one comes from the other by any number of such steps: two runs
without marks, next to each other anywhere in it, are put together, or one is split in two. -/
theorem runs_unseen {x y : Node} (h : Relation.EqvGen Node.Merges x y) :
    x.markdown = y.markdown ∧ x.latex = y.latex ∧
      ∀ (t : Target) (layout : Option Layout),
        (t.render layout x).map Rendering.text = (t.render layout y).map Rendering.text := by
  have htext : ∀ t : Target, (t.dialect.render x).text = (t.dialect.render y).text := by
    intro t
    induction h with
    | rel x y hxy => exact (hxy.sameEntry (escapesApart_dialect t)).text
    | refl x => rfl
    | symm x y _ ih => exact ih.symm
    | trans x y z _ _ hxy hyz => exact hxy.trans hyz
  refine ⟨congrArg String.ofList (htext .markdown), congrArg String.ofList (htext .latex), ?_⟩
  intro t layout
  rcases t.render_all_or_none layout with hrender | ⟨f, hrender⟩
  · rw [hrender, hrender]
    exact congrArg Except.ok (htext t)
  · rw [hrender, hrender]

def offer (runs : List Node) : Node :=
  .bulletList (some [.text "stray" none, .listItem (some [.paragraph (some runs)])])

private theorem offer_merges {runs others : List Node}
    (h : (Node.paragraph (some runs)).Merges (.paragraph (some others))) :
    (offer runs).Merges (offer others) :=
  .inside (.bulletList none) [.text "stray" none] [] (.inside (.listItem none) [] [] h)

theorem runs_unseen_offer :
    let runs := [Node.text "5" none, .text "0% off" (some [])]
    let others := [Node.text "50%" (some []), .text " off" none]
    Relation.EqvGen Node.Merges (offer runs) (offer others) ∧
      (offer runs).latex = (offer others).latex := by
  intro runs others
  have hruns : (offer runs).Merges (offer [.text "50% off" none]) :=
    offer_merges (.here (.paragraph none) [] [] "5" "0% off" rfl rfl rfl)
  have hothers : (offer others).Merges (offer [.text "50% off" none]) :=
    offer_merges (.here (.paragraph none) [] [] "50%" " off" rfl rfl rfl)
  have h : Relation.EqvGen Node.Merges (offer runs) (offer others) :=
    .trans _ _ _ (.rel _ _ hruns) (.symm _ _ (.rel _ _ hothers))
  exact ⟨h, (runs_unseen h).2.1⟩

end RichText
