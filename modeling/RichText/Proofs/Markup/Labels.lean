import RichText.Proofs.Latex.Decoding
import RichText.Proofs.Latex.Labels
import RichText.Proofs.Latex.Skeleton

/-!
Items that take a label from the text of the tree. Brackets are not escaped, so an unmarked run of
text that begins with one is the label of an item that shows nothing in front of it. Where this
happens is told from the tree alone, by a reader that goes through it in document order.
-/

set_option autoImplicit false
set_option relaxedAutoImplicit false

namespace RichText

open Tex (Command Pieces Scan TakesLabel tokens)

mutual

/-- What a reader has in mind about the last item behind a node. Marks and environments begin with a
command, and the line breaks at the end of an item are its own. -/
def Node.scan (s : Scan) : Node → Scan
  | .doc c => scanContent s c
  | .paragraph c =>
    if (c.getD []).isEmpty then s.char '\n' else ((scanContent s c).char '\n').char '\n'
  | .bulletList c => if (c.getD []).any Node.isListItem then (scanList s c).other else s
  | .orderedList _ c => if (c.getD []).any Node.isListItem then (scanList s c).other else s
  | .listItem c => (scanContent s.item c).dropBreaks.char '\n'
  | .text value marks =>
    if (marks.getD []).isEmpty then value.toList.foldl Scan.char s else s.other

def scanContent (s : Scan) : Content → Scan
  | none => s
  | some nodes => scanNodes s nodes

def scanNodes (s : Scan) : List Node → Scan
  | [] => s
  | n :: rest => scanNodes (n.scan s) rest

def scanList (s : Scan) : Content → Scan
  | none => s
  | some nodes => scanItems s nodes

def scanItems (s : Scan) : List Node → Scan
  | [] => s
  | .listItem c :: rest => scanItems ((scanContent s.item c).dropBreaks.char '\n') rest
  | _ :: rest => scanItems s rest

end

def Node.TakesLabel (n : Node) : Prop := n.scan .idle = .labelled

instance (n : Node) : Decidable n.TakesLabel := inferInstanceAs (Decidable (_ = _))

/-- A text that shows a bracket first, behind blanks. -/
def LeadsWithBracket (cs : List Char) : Prop :=
  (cs.dropWhile fun c => decide (c ∈ Tex.blanks)).head? = some '['

instance (cs : List Char) : Decidable (LeadsWithBracket cs) := inferInstanceAs (Decidable (_ = _))

mutual

/-- Some run of text without marks, anywhere in the tree, shows a bracket first. -/
def Node.hasLeadingBracket : Node → Bool
  | .doc c => contentHasLeadingBracket c
  | .paragraph c => contentHasLeadingBracket c
  | .bulletList c => contentHasLeadingBracket c
  | .orderedList _ c => contentHasLeadingBracket c
  | .listItem c => contentHasLeadingBracket c
  | .text value marks => (marks.getD []).isEmpty && decide (LeadsWithBracket value.toList)

def contentHasLeadingBracket : Content → Bool
  | none => false
  | some nodes => nodesHaveLeadingBracket nodes

def nodesHaveLeadingBracket : List Node → Bool
  | [] => false
  | n :: rest => n.hasLeadingBracket || nodesHaveLeadingBracket rest

end

namespace Tex

variable {words : List String} {d e : Nat} {cs : List Char} {es : List Command} {ts : List Token}
  {s : Scan}

private theorem item_mem_of_control (h : .control "item".toList ∈ ts) (d : Nat) :
    ∃ k, (k, Command.item) ∈ commandsWithin d ts := by
  induction ts generalizing d with
  | nil => exact absurd h List.not_mem_nil
  | cons t ts ih =>
    cases t with
    | char c =>
      have hts : .control "item".toList ∈ ts := by simpa using h
      exact ih hts _
    | control name =>
      rw [commandsWithin]
      rcases List.mem_cons.mp h with he | hts
      · obtain rfl := Token.control.inj he
        exact ⟨d, List.mem_append_left _ (List.mem_singleton_self _)⟩
      · obtain ⟨k, hk⟩ := ih hts d
        exact ⟨k, List.mem_append_right _ hk⟩

private theorem Pieces.not_item (h : Pieces words d cs es e) (hes : Command.item ∉ es) :
    .control "item".toList ∉ tokens cs := by
  intro hitem
  obtain ⟨k, hk⟩ := item_mem_of_control hitem d
  rw [h.reads.commands] at hk
  obtain ⟨x, hx, he⟩ := List.mem_map.mp hk
  obtain rfl : x = .item := (Prod.mk.inj he).2
  exact hes hx

namespace Scan

private theorem other_char (s : Scan) (c : Char) : s.other.char c = s.other := by
  cases s <;> rfl

private theorem other_other (s : Scan) : s.other.other = s.other := by
  cases s <;> rfl

private theorem read_other (h : .control "item".toList ∉ ts) : s.other.read ts = s.other := by
  induction ts with
  | nil => rfl
  | cons t ts ih =>
    rw [List.mem_cons, not_or] at h
    have htoken : s.other.token t = s.other := by
      cases t with
      | char c => exact other_char s c
      | control name =>
        have hname : name ≠ "item".toList := fun he => h.1 (congrArg Token.control he).symm
        exact (if_neg hname).trans (other_other s)
    have hcons : s.other.read (t :: ts) = (s.other.token t).read ts := rfl
    rw [hcons, htoken, ih h.2]

private theorem read_command {name : List Char} (htokens : tokens cs = .control name :: ts)
    (hname : name ≠ "item".toList) (h : Pieces words d cs es e) (hes : Command.item ∉ es) :
    s.read (tokens cs) = s.other := by
  have hitem := h.not_item hes
  rw [htokens] at hitem ⊢
  have hcons : s.read (.control name :: ts) = (s.token (.control name)).read ts := rfl
  have htoken : s.token (.control name) = s.other := if_neg hname
  rw [hcons, htoken]
  exact read_other fun hmem => hitem (List.mem_cons_of_mem _ hmem)

end Scan

end Tex

namespace Latex

open Tex.Scan

variable {s : Scan} {cs : List Char} {es : List Command}

private theorem char_eq_other {c : Char} (hc : c ∈ Tex.symbols ++ ['\\', '~', '^']) (s : Scan) :
    s.char c = s.other := by
  have hplain : ∀ x ∈ Tex.symbols ++ ['\\', '~', '^'], x ≠ '\n' ∧ x ≠ ' ' ∧ x ≠ '\t' ∧ x ≠ '[' :=
    Text.forall_mem_of_all (by decide)
  obtain ⟨hbreak, hspace, htab, hbracket⟩ := hplain c hc
  cases s with
  | idle | labelled => rfl
  | behind breaks trailing => simp [Scan.char, Scan.other, hbreak, hspace, htab, hbracket]

private theorem read_escapeChar (s : Scan) (c : Char) (cs : List Char) :
    s.read (tokens (escapeChar c ++ cs)) = (s.char c).read (tokens cs) := by
  have hword : ∀ name : List Char, name ≠ [] → name.all Char.isAlpha = true →
      name ≠ "item".toList → c ∈ Tex.symbols ++ ['\\', '~', '^'] →
      s.read (tokens ('\\' :: (name ++ '{' :: '}' :: cs))) = (s.char c).read (tokens cs) := by
    intro name hne hname hitem hc
    rw [tokens_command hne hname, Tex.tokens_char (by decide), char_eq_other hc]
    have htoken : s.token (.control name) = s.other := if_neg hitem
    have hgroup : (s.other.char '{').char '}' = s.other := by rw [other_char, other_char]
    change (((s.token (.control name)).char '{').char '}').read (tokens cs) = _
    rw [htoken, hgroup]
  have hsymbol : c.isAlpha = false → c ∈ Tex.symbols ++ ['\\', '~', '^'] →
      s.read (tokens ('\\' :: c :: cs)) = (s.char c).read (tokens cs) := by
    intro halpha hc
    rw [Tex.tokens_symbol halpha, char_eq_other hc]
    have hitem : [c] ≠ "item".toList := by simp
    have htoken : s.token (.control [c]) = s.other := if_neg hitem
    change (s.token (.control [c])).read (tokens cs) = _
    rw [htoken]
  unfold escapeChar
  split
  · exact hword "textbackslash".toList (by decide) (by decide) (by decide) (by decide)
  · exact hsymbol (by decide) (by decide)
  · exact hsymbol (by decide) (by decide)
  · exact hsymbol (by decide) (by decide)
  · exact hsymbol (by decide) (by decide)
  · exact hsymbol (by decide) (by decide)
  · exact hsymbol (by decide) (by decide)
  · exact hsymbol (by decide) (by decide)
  · exact hword "textasciitilde".toList (by decide) (by decide) (by decide) (by decide)
  · exact hword "textasciicircum".toList (by decide) (by decide) (by decide) (by decide)
  · next hb _ _ _ _ _ _ _ _ _ =>
    rw [List.singleton_append, Tex.tokens_char hb]
    rfl

private theorem read_escape (s : Scan) (t : List Char) :
    s.read (tokens (escape t)) = t.foldl Scan.char s := by
  induction t generalizing s with
  | nil => rfl
  | cons c t ih =>
    rw [escape, List.flatMap_cons, ← escape, read_escapeChar, ih]
    rfl

private theorem tokens_command_append {word : String} (hne : word.toList ≠ [])
    (hword : word.toList.all Char.isAlpha = true) (a rest : List Char) :
    tokens (command word a ++ rest) =
      .control word.toList :: .char '{' :: tokens (a ++ '}' :: rest) := by
  have hs : command word a ++ rest = '\\' :: (word.toList ++ '{' :: (a ++ '}' :: rest)) := by
    simp [command]
  rw [hs, tokens_command hne hword]

private theorem tokens_wrap (m : Mark) (t : List Char) :
    ∃ name ts, tokens (wrap m t) = .control name :: ts ∧ name ≠ "item".toList := by
  have hcommand : ∀ word ∈ ["textbf", "textit", "href"], ∀ a rest : List Char,
      ∃ name ts, tokens (command word a ++ rest) = .control name :: ts ∧ name ≠ "item".toList := by
    intro word hword a rest
    have hplain : word.toList ≠ [] ∧ word.toList.all Char.isAlpha = true ∧
        word.toList ≠ "item".toList :=
      Text.forall_mem_of_all (p := fun w => w.toList ≠ [] ∧ w.toList.all Char.isAlpha = true ∧
        w.toList ≠ "item".toList) (by decide) word hword
    exact ⟨_, _, tokens_command_append hplain.1 hplain.2.1 a rest, hplain.2.2⟩
  cases m with
  | bold => simpa [wrap] using hcommand "textbf" (by decide) t []
  | italic => simpa [wrap] using hcommand "textit" (by decide) t []
  | link a =>
    simpa [wrap] using hcommand "href" (by decide)
      (escapeUrl (LinkAttributes.destination a).toList) ('{' :: (t ++ ['}']))

private theorem read_run (s : Scan) (value : String) (marks : Option (List Mark)) :
    s.read (tokens (Dialect.latex.run value marks)) = (Node.text value marks).scan s := by
  rw [Node.scan]
  split
  · next he =>
    rw [Dialect.run, List.isEmpty_iff.mp he]
    exact read_escape s value.toList
  · next he =>
    -- the last mark is the outermost, so that the text begins with its command
    obtain ⟨ms, m, hms⟩ : ∃ ms m, marks.getD [] = ms ++ [m] := by
      rcases List.eq_nil_or_concat (marks.getD []) with hnil | h
      · exact absurd (List.isEmpty_iff.mpr hnil) he
      · simpa [List.concat_eq_append] using h
    have hrun : Dialect.latex.run value marks =
        wrap m (Dialect.latex.applyMarks ms (escape value.toList)) := by
      rw [Dialect.run, hms, Dialect.applyMarks_append]
      rfl
    obtain ⟨name, ts, htokens, hname⟩ :=
      tokens_wrap m (Dialect.latex.applyMarks ms (escape value.toList))
    rw [← hrun] at htokens
    exact read_command htokens hname (inline_run value marks 0) List.not_mem_nil

private theorem read_tokens_append {words : List String} {d e : Nat} (h : Pieces words d cs es e)
    (s : Scan) (b : List Char) :
    s.read (tokens (cs ++ b)) = (s.read (tokens cs)).read (tokens b) := by
  rw [h.tokens_append, Tex.Scan.read_append]

private theorem read_line (s : Scan) (m : Marker) {body : List Char}
    (h : Pieces bodyWords 0 body es 0) : s.read (tokens (Dialect.latex.line m body)) =
      (s.item.read (tokens body)).dropBreaks.char '\n' := by
  have hitem : (s.token (.control "item".toList)).char ' ' = s.item := by
    cases s <;> rfl
  have hsettled : s.item.dropBreaks = s.item := by
    cases s <;> rfl
  rw [line_eq, Tex.tokens_word (by decide) (by decide) (by decide), Tex.tokens_char (by decide),
    h.dropLineBreaks.tokens_append]
  change ((s.token (.control "item".toList)).char ' ').read
    (tokens (dropLineBreaks body) ++ tokens ['\n']) = _
  rw [hitem, Tex.Scan.read_append, read_dropLineBreaks h hsettled]
  rfl

private theorem read_frame (s : Scan) (m : Marker) {items : List Char} (hne : items ≠ [])
    (h : Pieces bodyWords 0 items es 0) :
    s.read (tokens (frame m items)) = (s.other.read (tokens items)).other := by
  have hframe : frame m items =
      command "begin" (environment m).1.toList ++ ((environment m).2 ++ ['\n']) ++
        (items ++ (command "end" (environment m).1.toList ++ ['\n'])) := by
    have hs : items.isEmpty = false := by simpa using hne
    simp [frame, hs]
  have hbegin : ∀ s : Scan, s.read (tokens (command "begin" (environment m).1.toList ++
      ((environment m).2 ++ ['\n']))) = s.other := fun s =>
    read_command (tokens_command_append (by decide) (by decide) _ _) (by decide) (pieces_begin m)
      (by simp)
  have hend : ∀ s : Scan, s.read (tokens (command "end" (environment m).1.toList ++ ['\n'])) =
      s.other := fun s =>
    read_command (tokens_command_append (by decide) (by decide) _ _) (by decide) (pieces_end m)
      (by simp)
  rw [hframe, read_tokens_append (pieces_begin m), hbegin, read_tokens_append h, hend]

private theorem scanItems_other {ns : List Node} (h : ns.any Node.isListItem = true) (s : Scan) :
    scanItems s.other ns = scanItems s ns := by
  have hitem : s.other.item = s.item := by
    cases s <;> rfl
  induction ns with
  | nil => cases h
  | cons n ns ih =>
    cases n with
    | listItem c => rw [scanItems, scanItems, hitem]
    | _ => exact ih h

private theorem read_environment (s : Scan) (m : Marker) (c : Content)
    (h : ∀ s : Scan, s.read (tokens (Dialect.latex.renderList m c).text) = scanList s c) :
    s.read (tokens (frame m (Dialect.latex.renderList m c).text)) =
      if (c.getD []).any Node.isListItem then (scanList s c).other else s := by
  have hnil : (Dialect.latex.renderList m c).text = [] ↔
      (c.getD []).any Node.isListItem = false := by
    cases c with
    | none => exact iff_of_true rfl rfl
    | some ns => exact renderItems_text_eq_nil _ m ns
  split
  · next hany =>
    have hne : (Dialect.latex.renderList m c).text ≠ [] := by
      rw [ne_eq, hnil, hany]
      exact Bool.noConfusion
    have hother : scanList s.other c = scanList s c := by
      cases c with
      | none => cases hany
      | some ns => exact scanItems_other hany s
    rw [read_frame s m hne (pieces_list m c), h, hother]
  · next hany =>
    rw [hnil.mpr (by simpa using hany)]
    rfl

mutual

/-- The text of a tree is read like the tree. -/
theorem read_render (s : Scan) : ∀ n : Node,
    s.read (tokens (Dialect.latex.render n).text) = n.scan s
  | .doc c => read_content s c
  | .paragraph c => by
    rw [Dialect.render, Dialect.paragraph, Node.scan]
    split
    · rfl
    · have happend := read_tokens_append (pieces_content c) s ['\n', '\n']
      rw [read_content s c] at happend
      exact happend
  | .bulletList c => read_environment s .bullet c (fun s => read_list s .bullet c)
  | .orderedList a c =>
    read_environment s (.ordinal (ListAttributes.firstOrdinal a)) c (fun s => read_list s _ c)
  | .listItem c => by
    have hline := read_line s .bullet (pieces_content c)
    rw [read_content s.item c] at hline
    exact hline
  | .text value marks => read_run s value marks

private theorem read_content (s : Scan) : ∀ c : Content,
    s.read (tokens (Dialect.latex.renderContent c).text) = scanContent s c
  | none => rfl
  | some ns => read_nodes s ns

private theorem read_nodes (s : Scan) : ∀ ns : List Node,
    s.read (tokens (Dialect.latex.renderNodes ns).text) = scanNodes s ns
  | [] => rfl
  | n :: rest => by
    have happend := read_tokens_append (pieces_render n) s (Dialect.latex.renderNodes rest).text
    rw [read_render s n, read_nodes (n.scan s) rest] at happend
    exact happend

private theorem read_list (s : Scan) (m : Marker) : ∀ c : Content,
    s.read (tokens (Dialect.latex.renderList m c).text) = scanList s c
  | none => rfl
  | some ns => read_items s m ns

private theorem read_items (s : Scan) : ∀ (m : Marker) (ns : List Node),
    s.read (tokens (Dialect.latex.renderItems m ns).text) = scanItems s ns
  | _, [] => rfl
  | m, .listItem c :: rest => by
    have happend := read_tokens_append (pieces_line m (pieces_content c)) s
      (Dialect.latex.renderItems m.next rest).text
    rw [read_line s m (pieces_content c), read_content s.item c, read_items _ m.next rest]
      at happend
    exact happend
  | m, .doc _ :: rest => read_items s m rest
  | m, .paragraph _ :: rest => read_items s m rest
  | m, .bulletList _ :: rest => read_items s m rest
  | m, .orderedList _ _ :: rest => read_items s m rest
  | m, .text _ _ :: rest => read_items s m rest

end

private theorem read_document {body : List Char} {es : List Command}
    (h : Pieces bodyWords 0 body es 0) : Tex.Scan.idle.read (tokens (document body)) =
      (Tex.Scan.idle.read (tokens body)).other := by
  have hstart : Tex.Scan.idle.read (tokens documentStart) = .idle :=
    read_other (s := .idle) (pieces_documentStart.not_item (by simp))
  have hend : ∀ s : Scan, s.read (tokens documentEnd) = s.other := fun s =>
    read_command (tokens_command_append (by decide) (by decide) _ _) (by decide)
      pieces_documentEnd (by simp)
  rw [document_eq, read_tokens_append pieces_documentStart, hstart, read_tokens_append h, hend]

end Latex

namespace Tex.Scan

variable {s : Scan}

theorem other_eq_labelled_iff : s.other = .labelled ↔ s = .labelled := by
  cases s <;> simp [other]

private theorem item_eq_labelled_iff : s.item = .labelled ↔ s = .labelled := by
  cases s <;> simp [item]

private theorem dropBreaks_eq_labelled_iff : s.dropBreaks = .labelled ↔ s = .labelled := by
  cases s <;> simp [dropBreaks]

private theorem break_eq_labelled_iff : s.char '\n' = .labelled ↔ s = .labelled := by
  cases s <;> simp [char]

private theorem foldl_char_ne_labelled {cs : List Char} (hs : s ≠ .labelled)
    (h : ¬ LeadsWithBracket cs) : cs.foldl char s ≠ .labelled := by
  have hidle : ∀ cs : List Char, cs.foldl char .idle = .idle := by
    intro cs
    induction cs with
    | nil => rfl
    | cons c cs ih => exact ih
  induction cs generalizing s with
  | nil => exact hs
  | cons c cs ih =>
    by_cases hc : c ∈ blanks
    · have hstep : s.char c ≠ .labelled := by
        have hbracket : c ≠ '[' := by
          rintro rfl
          exact absurd hc (by decide)
        cases s with
        | idle => exact hs
        | labelled => exact absurd rfl hs
        | behind breaks trailing =>
          rw [char]
          simp only [hbracket, false_and, if_false]
          split_ifs <;> simp
      refine ih hstep ?_
      rwa [LeadsWithBracket, List.dropWhile_cons, if_pos (decide_eq_true hc)] at h
    · have hbracket : c ≠ '[' := by
        rintro rfl
        exact h (by simp [LeadsWithBracket, hc])
      have hstep : s.char c = .idle := by
        cases s with
        | idle => rfl
        | labelled => exact absurd rfl hs
        | behind breaks trailing =>
          have hplain : c ≠ ' ' ∧ c ≠ '\t' ∧ c ≠ '\n' := by simpa [blanks] using hc
          simp [char, hplain, hbracket]
      simp [hstep, hidle]

end Tex.Scan

section Leading

open Tex.Scan

mutual

/-- A tree takes no label if none of its unmarked runs shows a bracket first. -/
theorem scan_ne_labelled : ∀ {s : Scan} {n : Node}, s ≠ .labelled → n.hasLeadingBracket = false →
    n.scan s ≠ .labelled
  | _, .doc _, hs, h => scanContent_ne_labelled hs h
  | _, .paragraph _, hs, h => by
    rw [Node.scan]
    split
    · exact mt break_eq_labelled_iff.mp hs
    · exact mt break_eq_labelled_iff.mp
        (mt break_eq_labelled_iff.mp (scanContent_ne_labelled hs h))
  | _, .bulletList _, hs, h => by
    rw [Node.scan]
    split
    · exact mt other_eq_labelled_iff.mp (scanList_ne_labelled hs h)
    · exact hs
  | _, .orderedList _ _, hs, h => by
    rw [Node.scan]
    split
    · exact mt other_eq_labelled_iff.mp (scanList_ne_labelled hs h)
    · exact hs
  | _, .listItem _, hs, h => scanEntry_ne_labelled hs h
  | _, .text _ _, hs, h => by
    rw [Node.scan]
    split
    · next he =>
      rw [Node.hasLeadingBracket, he, Bool.true_and] at h
      exact foldl_char_ne_labelled hs (of_decide_eq_false h)
    · exact mt other_eq_labelled_iff.mp hs

private theorem scanEntry_ne_labelled : ∀ {s : Scan} {c : Content}, s ≠ .labelled →
    contentHasLeadingBracket c = false →
    (scanContent s.item c).dropBreaks.char '\n' ≠ .labelled
  | _, _, hs, h => by
    have hbody := scanContent_ne_labelled (mt item_eq_labelled_iff.mp hs) h
    exact mt break_eq_labelled_iff.mp (mt dropBreaks_eq_labelled_iff.mp hbody)

private theorem scanContent_ne_labelled : ∀ {s : Scan} {c : Content}, s ≠ .labelled →
    contentHasLeadingBracket c = false → scanContent s c ≠ .labelled
  | _, none, hs, _ => hs
  | _, some _, hs, h => scanNodes_ne_labelled hs h

private theorem scanNodes_ne_labelled : ∀ {s : Scan} {ns : List Node}, s ≠ .labelled →
    nodesHaveLeadingBracket ns = false → scanNodes s ns ≠ .labelled
  | _, [], hs, _ => hs
  | _, n :: rest, hs, h => by
    obtain ⟨hn, hrest⟩ := Bool.or_eq_false_iff.mp h
    rw [scanNodes]
    exact scanNodes_ne_labelled (scan_ne_labelled hs hn) hrest

private theorem scanList_ne_labelled : ∀ {s : Scan} {c : Content}, s ≠ .labelled →
    contentHasLeadingBracket c = false → scanList s c ≠ .labelled
  | _, none, hs, _ => hs
  | _, some _, hs, h => scanItems_ne_labelled hs h

private theorem scanItems_ne_labelled : ∀ {s : Scan} {ns : List Node}, s ≠ .labelled →
    nodesHaveLeadingBracket ns = false → scanItems s ns ≠ .labelled
  | _, [], hs, _ => hs
  | _, n :: rest, hs, h => by
    obtain ⟨hn, hrest⟩ := Bool.or_eq_false_iff.mp h
    cases n with
    | listItem c =>
      rw [scanItems]
      exact scanItems_ne_labelled (scanEntry_ne_labelled hs hn) hrest
    | doc | paragraph | bulletList | orderedList | text =>
      have hskipped := scanItems_ne_labelled hs hrest
      exact hskipped

end

end Leading

/-- Whether an item takes a label, in the text of a tree or in its document, is told by the tree. No
item does if no unmarked run of the tree shows a bracket first. -/
theorem takesLabel_latex_iff (n : Node) :
    (TakesLabel (tokens n.latex.toList) ↔ n.TakesLabel) ∧
      (TakesLabel (tokens (Latex.document n.latex.toList)) ↔ n.TakesLabel) ∧
      (n.hasLeadingBracket = false → ¬ n.TakesLabel) := by
  have hpieces : Pieces Latex.bodyWords 0 n.latex.toList n.skeleton 0 := by
    simpa [Node.latex] using Latex.pieces_render n
  have hread : Scan.idle.read (tokens n.latex.toList) = n.scan .idle := by
    simpa [Node.latex] using Latex.read_render .idle n
  refine ⟨?_, ?_, fun h => scan_ne_labelled (by decide) h⟩
  · rw [Scan.takesLabel_iff, hread, Node.TakesLabel]
  · rw [Scan.takesLabel_iff, Latex.read_document hpieces, hread, Scan.other_eq_labelled_iff,
      Node.TakesLabel]

def bracketed : Node :=
  .bulletList (some [.listItem (some [.text "[x]" (some [.bold])]), .listItem (some
    [.paragraph (some [.text " done [x]" none])]), .listItem none, .paragraph none])

theorem takesLabel_latex_iff_bracketed :
    bracketed.hasLeadingBracket = false ∧
      ¬ TakesLabel (tokens (Latex.document bracketed.latex.toList)) := by
  have h : bracketed.hasLeadingBracket = false := by decide
  obtain ⟨-, hdocument, hplain⟩ := takesLabel_latex_iff bracketed
  exact ⟨h, mt hdocument.mp (hplain h)⟩

def tasks : Node := .bulletList (some [.listItem (some [.text "[x] done" none])])

theorem takesLabel_tasks :
    tasks.latex = "\\begin\x7bitemize\x7d\n\\item [x] done\n\\end\x7bitemize\x7d\n" ∧
      TakesLabel (tokens tasks.latex.toList) := by
  refine ⟨by decide, (Scan.takesLabel_iff _).mpr ?_⟩
  decide

end RichText
