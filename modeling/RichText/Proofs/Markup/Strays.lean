import RichText.Build
import RichText.Proofs.Build.Output
import RichText.Proofs.World.Continuing

/-!
Stray entries of lists, those that are no items. A tree is written as it is without them, in every
dialect; what is reported along the way is one record for each of them, in document order. What
stands inside a stray entry is neither written nor reported.
-/

set_option autoImplicit false
set_option relaxedAutoImplicit false

namespace RichText

mutual

/-- The tree without the stray entries of its lists, at every depth. -/
def Node.clean : Node → Node
  | .doc c => .doc (cleanContent c)
  | .paragraph c => .paragraph (cleanContent c)
  | .bulletList c => .bulletList (cleanList c)
  | .orderedList a c => .orderedList a (cleanList c)
  | .listItem c => .listItem (cleanContent c)
  | .text value marks => .text value marks

def cleanContent : Content → Content
  | none => none
  | some nodes => some (cleanNodes nodes)

def cleanNodes : List Node → List Node
  | [] => []
  | n :: rest => n.clean :: cleanNodes rest

def cleanList : Content → Content
  | none => none
  | some nodes => some (cleanItems nodes)

def cleanItems : List Node → List Node
  | [] => []
  | .listItem c :: rest => .listItem (cleanContent c) :: cleanItems rest
  | _ :: rest => cleanItems rest

end

mutual

/-- The stray entries in document order; those inside a stray entry are not among them. -/
def Node.strays : Node → List Node
  | .doc c => contentStrays c
  | .paragraph c => contentStrays c
  | .bulletList c => listStrays c
  | .orderedList _ c => listStrays c
  | .listItem c => contentStrays c
  | .text _ _ => []

def contentStrays : Content → List Node
  | none => []
  | some nodes => nodesStrays nodes

def nodesStrays : List Node → List Node
  | [] => []
  | n :: rest => n.strays ++ nodesStrays rest

def listStrays : Content → List Node
  | none => []
  | some nodes => itemsStrays nodes

def itemsStrays : List Node → List Node
  | [] => []
  | .listItem c :: rest => contentStrays c ++ itemsStrays rest
  | n :: rest => n :: itemsStrays rest

end

private theorem isEmpty_cleanContent (c : Content) :
    ((cleanContent c).getD []).isEmpty = (c.getD []).isEmpty := by
  cases c with
  | none => rfl
  | some ns =>
    cases ns with
    | nil => rfl
    | cons => rfl

namespace Dialect

variable (d : Dialect)

mutual

/-- A tree is written as it is without its stray entries, and then none is reported. -/
theorem render_clean : ∀ n : Node, d.render n.clean = .ofText (d.render n).text
  | .doc c => renderContent_clean c
  | .paragraph c => by
    have hbody := renderContent_clean c
    rw [Node.clean, render, render, hbody, paragraph, paragraph, isEmpty_cleanContent]
    split
    · rfl
    · rfl
  | .bulletList c => congrArg (Rendering.mapText (d.frame .bullet)) (renderList_clean .bullet c)
  | .orderedList a c => by
    have hitems := renderList_clean (.ordinal (ListAttributes.firstOrdinal a)) c
    rw [Node.clean, render, render, hitems]
    rfl
  | .listItem c => congrArg (Rendering.mapText (d.line .bullet)) (renderContent_clean c)
  | .text _ _ => rfl

private theorem renderContent_clean : ∀ c : Content,
    d.renderContent (cleanContent c) = .ofText (d.renderContent c).text
  | none => rfl
  | some ns => renderNodes_clean ns

private theorem renderNodes_clean : ∀ ns : List Node,
    d.renderNodes (cleanNodes ns) = .ofText (d.renderNodes ns).text
  | [] => rfl
  | n :: rest => by
    have hn := render_clean n
    have hrest := renderNodes_clean rest
    rw [cleanNodes, renderNodes, hn, hrest]
    rfl

private theorem renderList_clean (m : Marker) : ∀ c : Content,
    d.renderList m (cleanList c) = .ofText (d.renderList m c).text
  | none => rfl
  | some ns => renderItems_clean m ns

private theorem renderItems_clean (m : Marker) : ∀ ns : List Node,
    d.renderItems m (cleanItems ns) = .ofText (d.renderItems m ns).text
  | [] => rfl
  | .listItem c :: rest => by
    have hbody := renderContent_clean c
    have hrest := renderItems_clean m.next rest
    rw [cleanItems, renderItems, hbody, hrest]
    rfl
  | .doc _ :: rest => renderItems_clean m rest
  | .paragraph _ :: rest => renderItems_clean m rest
  | .bulletList _ :: rest => renderItems_clean m rest
  | .orderedList _ _ :: rest => renderItems_clean m rest
  | .text _ _ :: rest => renderItems_clean m rest

end

mutual

private theorem skipped_render : ∀ n : Node, (d.render n).skipped = n.strays.map Node.kind
  | .doc c => skipped_renderContent c
  | .paragraph c => by
    have hbody := skipped_renderContent c
    rw [render, paragraph, Node.strays]
    split
    · next hempty =>
      obtain rfl | rfl : c = none ∨ c = some [] := by
        cases c with
        | none => exact .inl rfl
        | some ns => exact .inr (congrArg some (List.isEmpty_iff.mp hempty))
      · rfl
      · rfl
    · exact hbody
  | .bulletList c => skipped_renderList .bullet c
  | .orderedList a c => skipped_renderList (.ordinal (ListAttributes.firstOrdinal a)) c
  | .listItem c => skipped_renderContent c
  | .text _ _ => rfl

private theorem skipped_renderContent : ∀ c : Content,
    (d.renderContent c).skipped = (contentStrays c).map Node.kind
  | none => rfl
  | some ns => skipped_renderNodes ns

private theorem skipped_renderNodes : ∀ ns : List Node,
    (d.renderNodes ns).skipped = (nodesStrays ns).map Node.kind
  | [] => rfl
  | n :: rest => by
    have hn := skipped_render n
    have hrest := skipped_renderNodes rest
    rw [nodesStrays, List.map_append, ← hn, ← hrest]
    rfl

private theorem skipped_renderList (m : Marker) : ∀ c : Content,
    (d.renderList m c).skipped = (listStrays c).map Node.kind
  | none => rfl
  | some ns => skipped_renderItems m ns

private theorem skipped_renderItems (m : Marker) : ∀ ns : List Node,
    (d.renderItems m ns).skipped = (itemsStrays ns).map Node.kind
  | [] => rfl
  | .listItem c :: rest => by
    have hbody := skipped_renderContent c
    have hrest := skipped_renderItems m.next rest
    rw [itemsStrays, List.map_append, ← hbody, ← hrest]
    rfl
  | .doc c :: rest => congrArg (Kind.doc :: ·) (skipped_renderItems m rest)
  | .paragraph c :: rest => congrArg (Kind.paragraph :: ·) (skipped_renderItems m rest)
  | .bulletList c :: rest => congrArg (Kind.bulletList :: ·) (skipped_renderItems m rest)
  | .orderedList a c :: rest => congrArg (Kind.orderedList :: ·) (skipped_renderItems m rest)
  | .text s ms :: rest => congrArg (Kind.text :: ·) (skipped_renderItems m rest)

end

end Dialect

private theorem Node.strays_clean (n : Node) : n.clean.strays = [] := by
  have hskipped := Dialect.markdown.skipped_render n.clean
  rw [Dialect.markdown.render_clean n] at hskipped
  exact List.map_eq_nil_iff.mp hskipped.symm

def strayRecord (n : Node) : Record where
  logger := Logger.markup.name
  level := Level.debug
  message := skippedMessage n.kind

namespace Build

variable {source : String} {format : TextFormat}

/-- Writing a tree as an output logs its stray entries and goes on with its text. -/
theorem run_generate (hsource : sourceFormat (Path.ofString source) = .ok format) (n : Node)
    (t : Target) (directory : Option String) (w : World) :
    let out := outputOf source t directory
    (generate source n t.name directory).run.run w =
      (do writeOutput (directory? directory) out (fileText t (t.dialect.render n).text)
          Work.log .build Level.info s!"Wrote {out.toString}"
          pure out : Work Path).run.run ((n.strays.map strayRecord).foldl World.record w) := by
  have hrender : t.render none n = .ok (t.dialect.render n) := rfl
  have hlogged := Work.run_forM_log_eq .markup Level.debug skippedMessage
    (t.dialect.render n).skipped w
  rw [t.dialect.skipped_render n, List.map_map] at hlogged
  rw [generate, output_eq_ok hsource t directory, Target.ofName_name,
    Work.run_bind_ok (Work.run_ofFailure_ok _ w), Work.run_bind_ok (Work.run_ofFailure_ok _ w),
    hrender, Work.run_bind_ok (Work.run_ofFailure_ok _ w), t.dialect.skipped_render n,
    Work.run_bind_ok hlogged]
  rfl

end Build

/-- The stray entries of lists are not seen, and they are reported alike. A tree is written as it is
without them in both dialects, and then nothing is reported. In every target and layout that fits
it, one entry is reported for each of them in document order; writing a tree as an output logs one
record for each, and is then the same as writing the tree without them. -/
theorem strays_unseen (n : Node) :
    n.clean.markdown = n.markdown ∧ n.clean.latex = n.latex ∧ n.clean.strays = [] ∧
    (∀ (t : Target) (layout : Option Layout) (r : Rendering), t.render layout n = .ok r →
      t.render layout n.clean = .ok ⟨r.text, []⟩ ∧ r.skipped = n.strays.map Node.kind) ∧
    ∀ (source : String) (format : TextFormat),
      Build.sourceFormat (Path.ofString source) = .ok format →
      ∀ (t : Target) (directory : Option String) (w : World),
        (Build.generate source n t.name directory).run.run w =
          (Build.generate source n.clean t.name directory).run.run
            ((n.strays.map strayRecord).foldl World.record w) := by
  refine ⟨?_, ?_, n.strays_clean, ?_, ?_⟩
  · rw [Node.markdown, Dialect.render_clean]
    rfl
  · rw [Node.latex, Dialect.render_clean]
    rfl
  · intro t layout r hr
    rcases t.render_all_or_none layout with hall | ⟨f, hnone⟩
    · rw [hall] at hr
      obtain rfl := Except.ok.inj hr
      rw [hall, Dialect.render_clean]
      exact ⟨rfl, t.dialect.skipped_render n⟩
    · rw [hnone] at hr
      cases hr
  · intro source format hsource t directory w
    rw [Build.run_generate hsource, Build.run_generate hsource, n.strays_clean,
      Dialect.render_clean]
    rfl

def straying : Node :=
  .bulletList (some [.text "a" none, .listItem (some [.orderedList none (some [.doc none])]),
    .paragraph (some [.bulletList (some [.text "b" none])])])

theorem strays_unseen_straying :
    straying.clean = .bulletList (some [.listItem (some [.orderedList none (some [])])]) ∧
      straying.strays.map Node.kind = [.text, .doc, .paragraph] ∧
      Target.latex.render none straying.clean =
        .ok ⟨"\\begin\x7bitemize\x7d\n\\item \n\\end\x7bitemize\x7d\n".toList, []⟩ ∧
      ∀ w : World, (Build.generate "cv.json" straying "latex" none).run.run w =
        (Build.generate "cv.json" straying.clean "latex" none).run.run
          ((straying.strays.map strayRecord).foldl World.record w) := by
  obtain ⟨-, -, -, hrender, hgenerate⟩ := strays_unseen straying
  have hclean := (hrender .latex none _ rfl).1
  have htext : (Target.latex.dialect.render straying).text =
      "\\begin\x7bitemize\x7d\n\\item \n\\end\x7bitemize\x7d\n".toList := by
    decide
  rw [htext] at hclean
  exact ⟨rfl, rfl, hclean, hgenerate "cv.json" .json rfl .latex none⟩

end RichText
