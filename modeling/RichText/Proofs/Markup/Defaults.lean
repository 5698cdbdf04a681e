import Mathlib.Data.List.Forall2
import RichText.Build

/-!
What a tree leaves out. An absent content or list of marks means the same as an empty one, a list
starts at its first ordinal however that is stated, and of the attributes of a link only its
destination counts. Two trees that differ in nothing else are written alike.
-/

set_option autoImplicit false
set_option relaxedAutoImplicit false

namespace RichText

/-- Two marks of one kind, links with the same destination. -/
def Mark.Interchangeable : Mark → Mark → Prop
  | .bold, .bold => True
  | .italic, .italic => True
  | .link a, .link b => LinkAttributes.destination a = LinkAttributes.destination b
  | _, _ => False

def marksInterchangeable (ms ks : Option (List Mark)) : Prop :=
  List.Forall₂ Mark.Interchangeable (ms.getD []) (ks.getD [])

mutual

/-- Two trees that differ at any places in an absent instead of an empty content or list of marks,
in how the first ordinal of a list is stated, or in attributes of links with the same destination.
-/
def Node.Interchangeable : Node → Node → Prop
  | .doc c, .doc e => contentsInterchangeable c e
  | .paragraph c, .paragraph e => contentsInterchangeable c e
  | .bulletList c, .bulletList e => contentsInterchangeable c e
  | .orderedList a c, .orderedList b e =>
    ListAttributes.firstOrdinal a = ListAttributes.firstOrdinal b ∧ contentsInterchangeable c e
  | .listItem c, .listItem e => contentsInterchangeable c e
  | .text s ms, .text t ks => s = t ∧ marksInterchangeable ms ks
  | _, _ => False

def contentsInterchangeable : Content → Content → Prop
  | none, none => True
  | none, some ys => ys = []
  | some xs, none => xs = []
  | some xs, some ys => nodesInterchangeable xs ys

def nodesInterchangeable : List Node → List Node → Prop
  | [], [] => True
  | x :: xs, y :: ys => x.Interchangeable y ∧ nodesInterchangeable xs ys
  | _, _ => False

end

private theorem isEmpty_eq_of_interchangeable {c e : Content} (h : contentsInterchangeable c e) :
    (c.getD []).isEmpty = (e.getD []).isEmpty := by
  match c, e, h with
  | none, none, _ => rfl
  | none, some _, h => rw [show _ = [] from h]; rfl
  | some _, none, h => rw [show _ = [] from h]; rfl
  | some [], some [], _ => rfl
  | some (_ :: _), some (_ :: _), _ => rfl

private theorem Node.Interchangeable.kind_eq {x y : Node} (h : x.Interchangeable y) :
    x.kind = y.kind := by
  unfold Node.Interchangeable at h
  split at h
  · rfl
  · rfl
  · rfl
  · rfl
  · rfl
  · rfl
  · exact h.elim

/-- A dialect that writes of the attributes of a link nothing but its destination. -/
structure Dialect.ReadsDestinations (d : Dialect) : Prop where
  wrap_eq {m k : Mark} : m.Interchangeable k → d.wrap m = d.wrap k

namespace Dialect

namespace ReadsDestinations

variable {d : Dialect}

private theorem applyMarks_eq (hd : d.ReadsDestinations) {ms ks : List Mark}
    (h : List.Forall₂ Mark.Interchangeable ms ks) (text : List Char) :
    d.applyMarks ms text = d.applyMarks ks text := by
  induction h generalizing text with
  | nil => rfl
  | @cons m k ms ks hm _ ih =>
    rw [Dialect.applyMarks_cons, Dialect.applyMarks_cons, ih, hd.wrap_eq hm]

mutual

private theorem render_eq (hd : d.ReadsDestinations) : ∀ {x y : Node}, x.Interchangeable y →
    d.render x = d.render y
  | .doc c, .doc e, h => renderContent_eq hd h
  | .paragraph c, .paragraph e, h => by
    have hbody := renderContent_eq hd h
    rw [render, render, hbody, paragraph, paragraph, isEmpty_eq_of_interchangeable h]
  | .bulletList c, .bulletList e, h =>
    congrArg (Rendering.mapText (d.frame .bullet)) (renderList_eq hd .bullet h)
  | .orderedList a c, .orderedList b e, ⟨hfirst, h⟩ => by
    have hitems := renderList_eq hd (.ordinal (ListAttributes.firstOrdinal b)) h
    rw [render, render, hfirst, hitems]
  | .listItem c, .listItem e, h =>
    congrArg (Rendering.mapText (d.line .bullet)) (renderContent_eq hd h)
  | .text s ms, .text t ks, ⟨hs, h⟩ => by
    rw [render, render, run, run, hs, hd.applyMarks_eq h]
termination_by structural x => x

private theorem renderContent_eq (hd : d.ReadsDestinations) : ∀ {c e : Content},
    contentsInterchangeable c e → d.renderContent c = d.renderContent e
  | none, none, _ => rfl
  | none, some ys, h => by
    obtain rfl : ys = [] := h
    rfl
  | some xs, none, h => by
    obtain rfl : xs = [] := h
    rfl
  | some xs, some ys, h => renderNodes_eq hd h
termination_by structural c => c

private theorem renderNodes_eq (hd : d.ReadsDestinations) : ∀ {xs ys : List Node},
    nodesInterchangeable xs ys → d.renderNodes xs = d.renderNodes ys
  | [], [], _ => rfl
  | x :: xs, y :: ys, ⟨h, hrest⟩ => by
    have hx := render_eq hd h
    have hxs := renderNodes_eq hd hrest
    rw [renderNodes, renderNodes, hx, hxs]
termination_by structural xs => xs

private theorem renderList_eq (hd : d.ReadsDestinations) (m : Marker) : ∀ {c e : Content},
    contentsInterchangeable c e → d.renderList m c = d.renderList m e
  | none, none, _ => rfl
  | none, some ys, h => by
    obtain rfl : ys = [] := h
    rfl
  | some xs, none, h => by
    obtain rfl : xs = [] := h
    rfl
  | some xs, some ys, h => renderItems_eq hd m h
termination_by structural c => c

private theorem renderItems_eq (hd : d.ReadsDestinations) (m : Marker) : ∀ {xs ys : List Node},
    nodesInterchangeable xs ys → d.renderItems m xs = d.renderItems m ys
  | [], [], _ => rfl
  | x :: xs, y :: ys, ⟨h, hrest⟩ => by
    have hbody := renderBody_eq hd h
    have hskipped := renderItems_eq hd m hrest
    have hnext := renderItems_eq hd m.next hrest
    rw [renderItems_cons, renderItems_cons, h.kind_eq, hbody, hskipped, hnext]
termination_by structural xs => xs

private theorem renderBody_eq (hd : d.ReadsDestinations) : ∀ {x y : Node}, x.Interchangeable y →
    d.renderContent x.content = d.renderContent y.content
  | .doc _, .doc _, h => renderContent_eq hd h
  | .paragraph _, .paragraph _, h => renderContent_eq hd h
  | .bulletList _, .bulletList _, h => renderContent_eq hd h
  | .orderedList _ _, .orderedList _ _, h => renderContent_eq hd h.2
  | .listItem _, .listItem _, h => renderContent_eq hd h
  | .text _ _, .text _ _, _ => rfl
termination_by structural x => x

end

end ReadsDestinations

private theorem readsDestinations_markdown : Dialect.markdown.ReadsDestinations where
  wrap_eq h := by
    funext text
    unfold Mark.Interchangeable at h
    split at h
    · rfl
    · rfl
    · next a b =>
      change ['['] ++ text ++ [']', '('] ++ (LinkAttributes.destination a).toList ++ [')'] = _
      rw [h]
      rfl
    · exact h.elim

private theorem readsDestinations_latex : Dialect.latex.ReadsDestinations where
  wrap_eq h := by
    funext text
    unfold Mark.Interchangeable at h
    split at h
    · rfl
    · rfl
    · next a b =>
      change Latex.command "href" (Latex.escapeUrl (LinkAttributes.destination a).toList) ++
        ['{'] ++ text ++ ['}'] = _
      rw [h]
      rfl
    · exact h.elim

private theorem readsDestinations_dialect (t : Target) : t.dialect.ReadsDestinations := by
  cases t with
  | markdown => exact readsDestinations_markdown
  | latex => exact readsDestinations_latex

end Dialect

/-- What a tree leaves out makes no difference. Trees that are interchangeable are written as the
same text with the same entries reported, in both dialects and whatever the layout; to write one of
them as an output is to write the other. -/
theorem defaults_unseen {x y : Node} (h : x.Interchangeable y) :
    x.markdown = y.markdown ∧ x.latex = y.latex ∧
    (∀ (t : Target) (layout : Option Layout), t.render layout x = t.render layout y) ∧
    ∀ (source target : String) (directory : Option String),
      Build.generate source x target directory = Build.generate source y target directory := by
  have hdialect : ∀ t : Target, t.dialect.render x = t.dialect.render y := fun t =>
    (Dialect.readsDestinations_dialect t).render_eq h
  have hrender : ∀ (t : Target) (layout : Option Layout),
      t.render layout x = t.render layout y := by
    intro t layout
    rcases t.render_all_or_none layout with hall | ⟨f, hnone⟩
    · rw [hall, hall, hdialect t]
    · rw [hnone, hnone]
  refine ⟨?_, ?_, hrender, ?_⟩
  · exact congrArg (fun r => String.ofList r.text) (hdialect .markdown)
  · exact congrArg (fun r => String.ofList r.text) (hdialect .latex)
  · intro source target directory
    simp only [Build.generate, hrender]

def terse : Node :=
  .doc (some [.paragraph none, .orderedList none (some [.text "stray" none,
    .listItem (some [.bulletList none, .text "Acme" (some [.link none])])])])

def explicit : Node :=
  .doc (some [.paragraph (some []), .orderedList (some { start := some 1 })
    (some [.text "stray" (some []), .listItem (some [.bulletList (some []),
      .text "Acme" (some [.link (some { href := some "", target := some "_blank" })])])])])

theorem defaults_unseen_terse :
    terse.Interchangeable explicit ∧ terse.markdown = explicit.markdown ∧
      terse.latex = explicit.latex := by
  have h : terse.Interchangeable explicit := by
    simp [terse, explicit, Node.Interchangeable, contentsInterchangeable, nodesInterchangeable,
      marksInterchangeable, Mark.Interchangeable, LinkAttributes.destination,
      ListAttributes.firstOrdinal]
  exact ⟨h, (defaults_unseen h).1, (defaults_unseen h).2.1⟩

end RichText
