import RichText.Proofs.Latex.Numbering
import RichText.Proofs.Latex.Skeleton

/-!
The ordinals of ordered lists. Markdown writes them out in front of the items; in LaTeX they are
what the items of the written environment count up to. Both start at the first ordinal of the list,
and neither entries that are no items nor the items of inner lists are counted.
-/

set_option autoImplicit false
set_option relaxedAutoImplicit false

namespace RichText

open Tex (Counts)

mutual

/-- The items that stand in a node without a list around them. -/
def Node.looseItems : Node → Nat
  | .doc c => looseInContent c
  | .paragraph c => looseInContent c
  | .bulletList _ => 0
  | .orderedList _ _ => 0
  | .listItem c => 1 + looseInContent c
  | .text _ _ => 0

def looseInContent : Content → Nat
  | none => 0
  | some nodes => looseInNodes nodes

def looseInNodes : List Node → Nat
  | [] => 0
  | n :: rest => n.looseItems + looseInNodes rest

end

def Node.itemBody? : Node → Option Content
  | .listItem body => some body
  | _ => none

def itemBodies (c : Content) : List Content := (c.getD []).filterMap Node.itemBody?

private theorem itemBodies_listItem (body : Content) (ns : List Node) :
    itemBodies (some (.listItem body :: ns)) = body :: itemBodies (some ns) := rfl

def looseInBodies : List Content → Nat
  | [] => 0
  | b :: rest => looseInContent b + looseInBodies rest

private theorem counts_environment (name : String) {c : Content} {n : Nat}
    (h : Counts n (listSkeleton c)) :
    Counts 0 (environmentSkeleton name c (listSkeleton c)) := by
  rw [environmentSkeleton]
  split
  · exact h.environment name
  · exact .nil

mutual

private theorem counts_skeleton : ∀ n : Node, Counts n.looseItems n.skeleton
  | .doc c => counts_content c
  | .paragraph c => counts_content c
  | .bulletList c => counts_environment "itemize" (counts_list c)
  | .orderedList _ c => counts_environment "enumerate" (counts_list c)
  | .listItem c => Counts.item.append (counts_content c)
  | .text _ _ => .nil

private theorem counts_content : ∀ c : Content, Counts (looseInContent c) (contentSkeleton c)
  | none => .nil
  | some ns => counts_nodes ns

private theorem counts_nodes : ∀ ns : List Node, Counts (looseInNodes ns) (nodesSkeleton ns)
  | [] => .nil
  | n :: rest => (counts_skeleton n).append (counts_nodes rest)

private theorem counts_list : ∀ c : Content,
    Counts ((itemBodies c).length + looseInBodies (itemBodies c)) (listSkeleton c)
  | none => .nil
  | some ns => counts_items ns

private theorem counts_items : ∀ ns : List Node,
    Counts ((itemBodies (some ns)).length + looseInBodies (itemBodies (some ns)))
      (itemsSkeleton ns)
  | [] => .nil
  | .listItem c :: rest => by
    have hcount : (itemBodies (some (.listItem c :: rest))).length +
        looseInBodies (itemBodies (some (.listItem c :: rest))) =
          1 + looseInContent c +
            ((itemBodies (some rest)).length + looseInBodies (itemBodies (some rest))) := by
      rw [itemBodies_listItem, List.length_cons, looseInBodies]
      omega
    rw [hcount]
    exact (Counts.item.append (counts_content c)).append (counts_items rest)
  | .doc _ :: rest => counts_items rest
  | .paragraph _ :: rest => counts_items rest
  | .bulletList _ :: rest => counts_items rest
  | .orderedList _ _ :: rest => counts_items rest
  | .text _ _ :: rest => counts_items rest

end

private theorem itemBodies_eq_nil {c : Content} (h : (c.getD []).any Node.isListItem = false) :
    itemBodies c = [] := by
  rw [itemBodies, List.filterMap_eq_nil_iff]
  intro n hn
  have hitem : n.isListItem = false := by simpa using List.any_eq_false.mp h n hn
  cases n with
  | listItem => cases hitem
  | doc | paragraph | bulletList | orderedList | text => rfl

private theorem latex_orderedList (a : Option ListAttributes) (c : Content) :
    (Dialect.latex.render (.orderedList a c)).text =
      Latex.frame (.ordinal (ListAttributes.firstOrdinal a))
        (Dialect.latex.renderList (.ordinal (ListAttributes.firstOrdinal a)) c).text := by
  rw [Dialect.render]
  rfl

private theorem renderList_text_eq_nil_iff (d : Dialect) (m : Marker) (c : Content) :
    (d.renderList m c).text = [] ↔ (c.getD []).any Node.isListItem = false := by
  cases c with
  | none => exact iff_of_true rfl rfl
  | some ns => exact Latex.renderItems_text_eq_nil d m ns

private theorem tokens_orderedList {a : Option ListAttributes} {c : Content}
    (h : (c.getD []).any Node.isListItem = true) :
    ∃ cs, Tex.tokens (Dialect.latex.render (.orderedList a c)).text = Tex.numberedTokens
      (Tex.tokens
        ((Latex.environment (.ordinal (ListAttributes.firstOrdinal a))).2 ++ '\n' :: cs)) := by
  rw [latex_orderedList]
  generalize hitems : (Dialect.latex.renderList _ c).text = items
  have hne : items.isEmpty = false := by
    rw [List.isEmpty_eq_false_iff, ← hitems, Ne, renderList_text_eq_nil_iff]
    simp [h]
  generalize ListAttributes.firstOrdinal a = n
  refine ⟨items ++ Latex.command "end" "enumerate".toList ++ ['\n'], ?_⟩
  have hframe : Latex.frame (.ordinal n) items =
      '\\' :: "begin".toList ++ ['{'] ++ "enumerate".toList ++ ['}'] ++
        ((Latex.environment (.ordinal n)).2 ++
          '\n' :: (items ++ Latex.command "end" "enumerate".toList ++ ['\n'])) := by
    rw [Latex.frame, hne]
    simp [Latex.command, Latex.environment]
  rw [hframe, Tex.tokens_environment (by decide) (by decide) (by decide)]
  rfl

/-- LaTeX counts the items of an ordered list and the loose ones in them from its first ordinal on.
-/
theorem ordinals_latex (a : Option ListAttributes) (c : Content) :
    Tex.ordinals (Tex.tokens (Dialect.latex.render (.orderedList a c)).text) =
      consecutive (ListAttributes.firstOrdinal a)
        ((itemBodies c).length + looseInBodies (itemBodies c)) := by
  cases hany : (c.getD []).any Node.isListItem with
  | false =>
    have hnil := (renderList_text_eq_nil_iff .latex
      (.ordinal (ListAttributes.firstOrdinal a)) c).mpr hany
    rw [latex_orderedList, hnil, itemBodies_eq_nil hany]
    rfl
  | true =>
    obtain ⟨cs, htokens⟩ := tokens_orderedList (a := a) hany
    have hcommands := (Latex.pieces_render (.orderedList a c)).reads.commands_eq
    have hskeleton : (Node.orderedList a c).skeleton =
        .opens "enumerate" :: listSkeleton c ++ [.closes "enumerate"] := if_pos hany
    rw [htokens, hskeleton] at hcommands
    rw [htokens, Tex.ordinals_numberedTokens hcommands (counts_list c),
      Tex.startOption?_environment]

def numberedLine (n : Int) (body : Content) : List Char :=
  (toString n).toList ++ ['.', ' '] ++ dropLineBreaks (Dialect.markdown.renderContent body).text
    ++ ['\n']

private theorem markdown_renderItems (first : Int) (extra : Nat) (ns : List Node) :
    (Dialect.markdown.renderItems (.ordinal first) ns).text =
      (List.zipWith numberedLine
        (consecutive first ((itemBodies (some ns)).length + extra))
        (itemBodies (some ns))).flatten := by
  induction ns generalizing first with
  | nil => simp [itemBodies, Dialect.renderItems, Rendering.empty]
  | cons n ns ih =>
    cases n with
    | listItem body =>
      have htext : (Dialect.markdown.renderItems (.ordinal first) (.listItem body :: ns)).text =
          numberedLine first body ++
            (Dialect.markdown.renderItems (.ordinal (first + 1)) ns).text := rfl
      rw [htext, itemBodies_listItem, List.length_cons, Nat.add_right_comm, consecutive,
        List.zipWith_cons_cons, List.flatten_cons, ih]
    | doc | paragraph | bulletList | orderedList | text => exact ih first

private theorem renderItems_append (d : Dialect) (first : Int) (xs ys : List Node) :
    (d.renderItems (.ordinal first) (xs ++ ys)).text =
      (d.renderItems (.ordinal first) xs).text ++
        (d.renderItems (.ordinal (first + (itemBodies (some xs)).length)) ys).text := by
  induction xs generalizing first with
  | nil =>
    have hfirst : first + (itemBodies (some [])).length = first := Int.add_zero first
    rw [List.nil_append, hfirst]
    rfl
  | cons x xs ih =>
    cases x with
    | listItem body =>
      have hline : ∀ ns : List Node, (d.renderItems (.ordinal first) (.listItem body :: ns)).text =
          d.line (.ordinal first) (d.renderContent body).text ++
            (d.renderItems (.ordinal (first + 1)) ns).text := fun _ => rfl
      have hnext : first + (itemBodies (some (.listItem body :: xs))).length =
          first + 1 + (itemBodies (some xs)).length := by
        rw [itemBodies_listItem, List.length_cons]
        omega
      rw [List.cons_append, hline, hline, ih, hnext, List.append_assoc]
    | doc | paragraph | bulletList | orderedList | text => exact ih first

private theorem markdown_orderedList (a : Option ListAttributes) (ns : List Node) :
    (Node.orderedList a (some ns)).markdown = String.ofList
      (Dialect.markdown.renderItems (.ordinal (ListAttributes.firstOrdinal a)) ns).text := by
  rw [Node.markdown, Dialect.render]
  rfl

/-- An ordered list is numbered alike in both dialects. The items directly in its environment take
the ordinals from its first one on, one for each item of the list and each loose one; Markdown
writes the same ordinals in front of the items of the list, in their order. Two contents in a row
are numbered like the first one and, behind its items, the second one. -/
theorem ordinals_alike :
    (∀ (a : Option ListAttributes) (c : Content),
      let list := Node.orderedList a c
      let ordinals := Tex.ordinals (Tex.tokens list.latex.toList)
      (∀ k, ordinals[k]? =
        if k < (itemBodies c).length + looseInBodies (itemBodies c)
        then some (ListAttributes.firstOrdinal a + k) else none) ∧
      list.markdown.toList = (List.zipWith numberedLine ordinals (itemBodies c)).flatten) ∧
    ∀ (a : Option ListAttributes) (xs ys : List Node),
      let next := ListAttributes.firstOrdinal a + (itemBodies (some xs)).length
      (Node.orderedList a (some (xs ++ ys))).markdown =
        (Node.orderedList a (some xs)).markdown ++
          (Node.orderedList (some { start := some next }) (some ys)).markdown := by
  refine ⟨fun a c => ?_, fun a xs ys => ?_⟩
  · have hordinals := ordinals_latex a c
    simp only [Node.latex, String.toList_ofList]
    rw [hordinals]
    refine ⟨fun k => getElem?_consecutive _ _ k, ?_⟩
    cases c with
    | none =>
      have hnone : (Node.orderedList a none).markdown = "" := by
        rw [Node.markdown, Dialect.render]
        rfl
      rw [hnone]
      rfl
    | some ns =>
      rw [markdown_orderedList, String.toList_ofList]
      exact markdown_renderItems _ _ ns
  · simp only [markdown_orderedList, renderItems_append, String.ofList_append]
    rfl

/-- Neither a stray entry nor the items of an inner list take an ordinal. -/
example :
    let inner := Node.orderedList none (some [.listItem none, .listItem none])
    let list := Node.orderedList (some { start := some (-1) })
      (some [.listItem (some [inner]), .text "stray" none, .listItem none])
    list.markdown = "-1. 1. \n2. \n0. \n" ∧
      Tex.ordinals (Tex.tokens list.latex.toList) = [-1, 0] := by
  decide

end RichText
