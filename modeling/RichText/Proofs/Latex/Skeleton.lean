import RichText.Markup.Target
import RichText.Proofs.Latex.Pieces

/-!
The list structure of a tree in its LaTeX text. The skeleton of a tree is the sequence of its list
commands, by recursion on the tree alone; the text of the tree reads as exactly this skeleton, with
every command outside the groups and every group closed, whatever its strings hold.
-/

set_option autoImplicit false
set_option relaxedAutoImplicit false

namespace RichText

open Tex (Command Pieces)

/-- The commands of an environment around those of its items; one without items is left out. -/
def environmentSkeleton (name : String) (entries : Content) (items : List Command) :
    List Command :=
  if (entries.getD []).any Node.isListItem then .opens name :: items ++ [.closes name] else []

mutual

def Node.skeleton : Node → List Command
  | .doc c => contentSkeleton c
  | .paragraph c => contentSkeleton c
  | .bulletList c => environmentSkeleton "itemize" c (listSkeleton c)
  | .orderedList _ c => environmentSkeleton "enumerate" c (listSkeleton c)
  | .listItem c => .item :: contentSkeleton c
  | .text _ _ => []

def contentSkeleton : Content → List Command
  | none => []
  | some nodes => nodesSkeleton nodes

def nodesSkeleton : List Node → List Command
  | [] => []
  | n :: rest => n.skeleton ++ nodesSkeleton rest

/-- The commands of the items of a list; entries that are no items give nothing. -/
def listSkeleton : Content → List Command
  | none => []
  | some nodes => itemsSkeleton nodes

def itemsSkeleton : List Node → List Command
  | [] => []
  | .listItem c :: rest => .item :: contentSkeleton c ++ itemsSkeleton rest
  | _ :: rest => itemsSkeleton rest

end

namespace Latex

def bodyWords : List String :=
  ["textbf", "textit", "href", "textbackslash", "textasciitilde", "textasciicircum"]

def documentWords : List String := ["documentclass", "usepackage"] ++ bodyWords

variable {words : List String}

/-- A text of whole pieces without list commands, read with any number of open groups. -/
def Inline (words : List String) (cs : List Char) : Prop := ∀ d, Pieces words d cs [] d

theorem Inline.nil : Inline words [] := fun d => .nil d

theorem Inline.append {a b : List Char} (ha : Inline words a) (hb : Inline words b) :
    Inline words (a ++ b) := fun d => (ha d).append (hb d)

theorem Inline.flatMap {f : Char → List Char} (hf : ∀ c, Inline words (f c)) (cs : List Char) :
    Inline words (cs.flatMap f) := by
  induction cs with
  | nil => exact Inline.nil
  | cons c cs ih =>
    rw [List.flatMap_cons]
    exact (hf c).append ih

theorem Inline.chars {cs : List Char} (h : ∀ c ∈ cs, c ∉ Tex.reserved) : Inline words cs := by
  intro d
  induction cs with
  | nil => exact .nil d
  | cons c cs ih =>
    have hc := h c List.mem_cons_self
    exact .char hc (ih fun x hx => h x (List.mem_cons_of_mem c hx))

theorem Inline.single {c : Char} (hc : c ∉ Tex.reserved) : Inline words [c] := by
  refine Inline.chars ?_
  intro x hx
  rw [List.mem_singleton.mp hx]
  exact hc

theorem Inline.symbol {c : Char} (hc : c ∈ Tex.symbols) {cs : List Char} (h : Inline words cs) :
    Inline words ('\\' :: c :: cs) := fun d => .symbol hc (h d)

theorem Inline.group {cs : List Char} (h : Inline words cs) :
    Inline words ('{' :: (cs ++ ['}'])) := by
  intro d
  have hc : Pieces words (d + 1) ['}'] [] d := .closing (.nil d)
  exact .opening ((h (d + 1)).append hc)

theorem Inline.command {word : String} (hw : Tex.IsPlainWord word) (hm : word ∈ words)
    {cs : List Char} (h : Inline words cs) : Inline words (command word cs) := by
  intro d
  have hc : Pieces words (d + 1) ['}'] [] d := .closing (.nil d)
  have hp := Pieces.word hw hm ((h (d + 1)).append hc)
  simpa [Latex.command] using hp

private theorem isPlainWord_of_mem {w : String} (hw : w ∈ documentWords) : Tex.IsPlainWord w := by
  have hall : ∀ x ∈ documentWords, Tex.IsPlainWord x := by decide
  exact hall w hw

private theorem inline_escapeChar (c : Char) : Inline bodyWords (escapeChar c) := by
  have hword : ∀ w ∈ bodyWords, Inline bodyWords (command w []) := fun w hw =>
    Inline.nil.command (isPlainWord_of_mem (List.mem_append_right _ hw)) hw
  unfold escapeChar
  split
  · exact hword "textbackslash" (by decide)
  · exact Inline.nil.symbol (by decide)
  · exact Inline.nil.symbol (by decide)
  · exact Inline.nil.symbol (by decide)
  · exact Inline.nil.symbol (by decide)
  · exact Inline.nil.symbol (by decide)
  · exact Inline.nil.symbol (by decide)
  · exact Inline.nil.symbol (by decide)
  · exact hword "textasciitilde" (by decide)
  · exact hword "textasciicircum" (by decide)
  · refine Inline.single ?_
    intro hr
    simp only [Tex.reserved, List.mem_cons, List.not_mem_nil, or_false] at hr
    rcases hr with rfl | rfl | rfl | rfl <;> contradiction

private theorem inline_escapeUrlChar (c : Char) : Inline bodyWords (escapeUrlChar c) := by
  have hcode : ∀ cs : List Char, (∀ c ∈ cs, c ∉ Tex.reserved) →
      Inline bodyWords ('\\' :: '%' :: cs) := fun cs hcs =>
    (Inline.chars hcs).symbol (by decide)
  unfold escapeUrlChar
  split
  · exact hcode [] (Text.forall_mem_of_all (by decide))
  · exact Inline.nil.symbol (by decide)
  · exact hcode ['5', 'C'] (Text.forall_mem_of_all (by decide))
  · exact hcode ['7', 'B'] (Text.forall_mem_of_all (by decide))
  · exact hcode ['7', 'D'] (Text.forall_mem_of_all (by decide))
  · refine Inline.single ?_
    intro hr
    simp only [Tex.reserved, List.mem_cons, List.not_mem_nil, or_false] at hr
    rcases hr with rfl | rfl | rfl | rfl <;> contradiction

private theorem inline_wrap (m : Mark) {t : List Char} (ht : Inline bodyWords t) :
    Inline bodyWords (wrap m t) := by
  have hword : ∀ w ∈ bodyWords, ∀ cs, Inline bodyWords cs → Inline bodyWords (command w cs) :=
    fun w hw cs hcs => hcs.command (isPlainWord_of_mem (List.mem_append_right _ hw)) hw
  cases m with
  | bold => exact hword "textbf" (by decide) t ht
  | italic => exact hword "textit" (by decide) t ht
  | link a =>
    have hu : Inline bodyWords (escapeUrl (LinkAttributes.destination a).toList) :=
      Inline.flatMap inline_escapeUrlChar _
    have hr := (hword "href" (by decide) _ hu).append ht.group
    simpa [wrap] using hr

theorem inline_run (value : String) (marks : Option (List Mark)) :
    Inline bodyWords (Dialect.latex.run value marks) := by
  have hm : ∀ (ms : List Mark) (t : List Char), Inline bodyWords t →
      Inline bodyWords (ms.foldl (fun t m => wrap m t) t) := by
    intro ms
    induction ms with
    | nil => exact fun t ht => ht
    | cons m ms ih => exact fun t ht => ih (wrap m t) (inline_wrap m ht)
  exact hm _ _ (Inline.flatMap inline_escapeChar _)

private theorem inline_environment (m : Marker) : Inline bodyWords (environment m).2 := by
  refine Inline.chars ?_
  cases m with
  | bullet => exact fun c hc => absurd hc List.not_mem_nil
  | ordinal n =>
    have hd : ∀ c : Char, c.isDigit = true → c ∉ Tex.reserved := by
      intro c hc hr
      have hall : ∀ x ∈ Tex.reserved, x.isDigit = false := Text.forall_mem_of_all (by decide)
      rw [hall c hr] at hc
      exact Bool.false_ne_true hc
    have hstart : ∀ c ∈ "[start=".toList, c ∉ Tex.reserved := Text.forall_mem_of_all (by decide)
    intro c hc
    simp only [environment] at hc
    split at hc
    · exact absurd hc List.not_mem_nil
    · simp only [List.mem_append] at hc
      rcases hc with (hc | hc) | hc
      · exact hstart c hc
      · rcases Text.mem_int hc with rfl | hc
        · decide
        · exact hd c hc
      · rw [List.mem_singleton.mp hc]
        decide

theorem line_eq (m : Marker) (body : List Char) : Dialect.latex.line m body =
    '\\' :: ("item".toList ++ ' ' :: (dropLineBreaks body ++ ['\n'])) := by
  have hstart : Dialect.latex.itemStart m = '\\' :: ("item".toList ++ [' ']) := by
    change "\\item ".toList = _
    decide
  rw [Dialect.line, hstart]
  simp only [List.cons_append, List.append_assoc, List.nil_append]

theorem pieces_line (m : Marker) {body : List Char} {es : List Command}
    (h : Pieces bodyWords 0 body es 0) :
    Pieces bodyWords 0 (Dialect.latex.line m body) (.item :: es) 0 := by
  have hbreak : Pieces bodyWords 0 ['\n'] [] 0 := .char (by decide) (.nil 0)
  have hbody := h.dropLineBreaks.append hbreak
  rw [line_eq]
  simpa using Pieces.item hbody

private theorem isAlpha_environment (m : Marker) :
    (environment m).1.toList.all Char.isAlpha = true := by
  cases m with
  | bullet => decide
  | ordinal n =>
    change "enumerate".toList.all Char.isAlpha = true
    decide

theorem pieces_begin (m : Marker) : Pieces bodyWords 0
    (command "begin" (environment m).1.toList ++ ((environment m).2 ++ ['\n']))
    [.opens (environment m).1] 0 := by
  have hbreak : Pieces bodyWords 0 ['\n'] [] 0 := .char (by decide) (.nil 0)
  exact .opens (isAlpha_environment m) ((inline_environment m 0).append hbreak)

theorem pieces_end (m : Marker) : Pieces bodyWords 0
    (command "end" (environment m).1.toList ++ ['\n']) [.closes (environment m).1] 0 := by
  have hbreak : Pieces bodyWords 0 ['\n'] [] 0 := .char (by decide) (.nil 0)
  exact .closes (isAlpha_environment m) hbreak

private theorem pieces_frame (m : Marker) {items : List Char} {es : List Command} (hne : items ≠ [])
    (h : Pieces bodyWords 0 items es 0) :
    Pieces bodyWords 0 (frame m items)
      (.opens (environment m).1 :: es ++ [.closes (environment m).1]) 0 := by
  have hbody := (pieces_begin m).append (h.append (pieces_end m))
  have hs : items.isEmpty = false := by simpa using hne
  simpa [frame, hs] using hbody

theorem renderItems_text_eq_nil (d : Dialect) (m : Marker) (ns : List Node) :
    (d.renderItems m ns).text = [] ↔ ns.any Node.isListItem = false := by
  induction ns generalizing m with
  | nil => simp [Dialect.renderItems, Rendering.empty]
  | cons n ns ih =>
    have hskip : ∀ k : Kind, (Rendering.skip k ++ d.renderItems m ns).text =
        (d.renderItems m ns).text := fun _ => rfl
    cases n with
    | listItem c =>
      have hl : ((d.renderContent c).mapText (d.line m) ++ d.renderItems m.next ns).text ≠ [] := by
        intro he
        have hf := (List.append_eq_nil_iff.mp he).1
        exact List.cons_ne_nil _ _ (List.append_eq_nil_iff.mp hf).2
      simp [Dialect.renderItems, hl, Node.isListItem]
    | doc c => simpa [Dialect.renderItems, hskip, Node.isListItem] using ih m
    | paragraph c => simpa [Dialect.renderItems, hskip, Node.isListItem] using ih m
    | bulletList c => simpa [Dialect.renderItems, hskip, Node.isListItem] using ih m
    | orderedList a c => simpa [Dialect.renderItems, hskip, Node.isListItem] using ih m
    | text v ms => simpa [Dialect.renderItems, hskip, Node.isListItem] using ih m

private theorem pieces_environment (m : Marker) (c : Content)
    (h : Pieces bodyWords 0 (Dialect.latex.renderList m c).text (listSkeleton c) 0) :
    Pieces bodyWords 0 (frame m (Dialect.latex.renderList m c).text)
      (environmentSkeleton (environment m).1 c (listSkeleton c)) 0 := by
  have hiff : (Dialect.latex.renderList m c).text = [] ↔
      (c.getD []).any Node.isListItem = false := by
    cases c with
    | none => exact iff_of_true rfl rfl
    | some ns => exact renderItems_text_eq_nil _ m ns
  by_cases hany : (c.getD []).any Node.isListItem = true
  · have hne := mt hiff.mp (by simp [hany])
    simpa [environmentSkeleton, hany] using pieces_frame m hne h
  · -- without items there is no text, and then no environment is written around it
    have he := hiff.mpr (by simpa using hany)
    rw [he, environmentSkeleton, if_neg hany]
    exact .nil 0

mutual

theorem pieces_render :
    ∀ n : Node, Pieces bodyWords 0 (Dialect.latex.render n).text n.skeleton 0
  | .doc c => pieces_content c
  | .paragraph c => by
    have hbreak : ∀ cs, Pieces bodyWords 0 cs [] 0 → Pieces bodyWords 0 ('\n' :: cs) [] 0 :=
      fun _ h => .char (by decide) h
    rw [Dialect.render, Dialect.paragraph, Node.skeleton]
    split
    · next he =>
      have hc : contentSkeleton c = [] := by
        cases c with
        | none => rfl
        | some ns =>
          have hns : ns = [] := List.isEmpty_iff.mp he
          rw [hns]
          rfl
      rw [hc]
      exact hbreak [] (.nil 0)
    · have hp := (pieces_content c).append (hbreak _ (hbreak [] (.nil 0)))
      rwa [List.append_nil] at hp
  | .bulletList c => pieces_environment .bullet c (pieces_list .bullet c)
  | .orderedList a c =>
    pieces_environment (.ordinal (ListAttributes.firstOrdinal a)) c (pieces_list _ c)
  | .listItem c => pieces_line .bullet (pieces_content c)
  | .text value marks => inline_run value marks 0

theorem pieces_content : ∀ c : Content,
    Pieces bodyWords 0 (Dialect.latex.renderContent c).text (contentSkeleton c) 0
  | none => .nil 0
  | some ns => pieces_nodes ns

private theorem pieces_nodes : ∀ ns : List Node,
    Pieces bodyWords 0 (Dialect.latex.renderNodes ns).text (nodesSkeleton ns) 0
  | [] => .nil 0
  | n :: rest => (pieces_render n).append (pieces_nodes rest)

theorem pieces_list (m : Marker) : ∀ c : Content,
    Pieces bodyWords 0 (Dialect.latex.renderList m c).text (listSkeleton c) 0
  | none => .nil 0
  | some ns => pieces_items m ns

private theorem pieces_items : ∀ (m : Marker) (ns : List Node),
    Pieces bodyWords 0 (Dialect.latex.renderItems m ns).text (itemsSkeleton ns) 0
  | _, [] => .nil 0
  | m, .listItem c :: rest => (pieces_line m (pieces_content c)).append (pieces_items m.next rest)
  | m, .doc _ :: rest => pieces_items m rest
  | m, .paragraph _ :: rest => pieces_items m rest
  | m, .bulletList _ :: rest => pieces_items m rest
  | m, .orderedList _ _ :: rest => pieces_items m rest
  | m, .text _ _ :: rest => pieces_items m rest

end

private theorem inline_documentCommand {w : String} (hw : w ∈ documentWords) {cs : List Char}
    (hcs : ∀ c ∈ cs, c ∉ Tex.reserved) : Inline documentWords (command w cs) :=
  (Inline.chars hcs).command (isPlainWord_of_mem hw) hw

def documentStart : List Char :=
  command "documentclass" documentClass.toList ++ ['\n', '\n']
    ++ packages.flatMap (fun p => command "usepackage" p.toList ++ ['\n']) ++ ['\n']
    ++ command "begin" "document".toList ++ ['\n', '\n']

def documentEnd : List Char := command "end" "document".toList ++ ['\n']

theorem document_eq (body : List Char) :
    document body = documentStart ++ (body ++ documentEnd) := by
  simp [document, documentStart, documentEnd]

theorem pieces_documentStart : Pieces documentWords 0 documentStart [.opens "document"] 0 := by
  have hbreak : Inline documentWords ['\n'] :=
    Inline.chars (Text.forall_mem_of_all (by decide))
  have hpackages : Inline documentWords
      (packages.flatMap fun p => command "usepackage" p.toList ++ ['\n']) := by
    have hp : ∀ p ∈ packages, (p.toList.all fun c => decide (c ∉ Tex.reserved)) = true := by decide
    have hu : ∀ p ∈ packages, Inline documentWords (command "usepackage" p.toList ++ ['\n']) :=
      fun p hm =>
        (inline_documentCommand (by decide) (Text.forall_mem_of_all (hp p hm))).append hbreak
    have hone := hu "hyperref" (by decide)
    have htwo := hu "enumitem" (by decide)
    simpa [packages] using hone.append htwo
  have hclass : ∀ c ∈ documentClass.toList, c ∉ Tex.reserved :=
    Text.forall_mem_of_all (by decide)
  have hpreamble : Inline documentWords
      (command "documentclass" documentClass.toList ++ ['\n', '\n']
        ++ packages.flatMap (fun p => command "usepackage" p.toList ++ ['\n']) ++ ['\n']) :=
    (((inline_documentCommand (by decide) hclass).append (hbreak.append hbreak)).append
      hpackages).append hbreak
  have hname : "document".toList.all Char.isAlpha = true := by decide
  have hall := (hpreamble 0).append (Pieces.opens hname ((hbreak.append hbreak) 0))
  simpa [documentStart] using hall

theorem pieces_documentEnd : Pieces documentWords 0 documentEnd [.closes "document"] 0 := by
  have hbreak : Pieces documentWords 0 ['\n'] [] 0 := .char (by decide) (.nil 0)
  exact .closes (by decide) hbreak

private theorem pieces_document {body : List Char} {es : List Command}
    (h : Pieces bodyWords 0 body es 0) :
    Pieces documentWords 0 (document body) (.opens "document" :: es ++ [.closes "document"]) 0 := by
  rw [document_eq]
  have hbody := (h.mono (List.subset_append_right _ _)).append pieces_documentEnd
  exact pieces_documentStart.append hbody

/-- Whatever the strings of a tree hold, its LaTeX text shows exactly the list commands of its
skeleton, and a complete document shows one environment around them. All commands stand outside
groups, groups are balanced and no comment hides anything; the text of the tree has no control
sequences of other kinds than those it is written with. -/
theorem commands_latex (n : Node) :
    let ts := Tex.tokens n.latex.toList
    let ds := Tex.tokens (document n.latex.toList)
    Tex.commands ts = n.skeleton ∧
      Tex.commands ds = .opens "document" :: n.skeleton ++ [.closes "document"] ∧
      (∀ us ∈ [ts, ds], Tex.Balanced us ∧ .char '%' ∉ us ∧
        ∀ c ∈ Tex.commandsWithin 0 us, c.1 = 0) ∧
      ∀ name, .control name ∈ ts → name ∈ Tex.vocabulary bodyWords := by
  have hp : Pieces bodyWords 0 n.latex.toList n.skeleton 0 := by
    simpa [Node.latex] using pieces_render n
  have hts := hp.reads
  have hds := (pieces_document hp).reads
  refine ⟨hts.commands_eq, hds.commands_eq, ?_, hts.named⟩
  intro us hus
  simp only [List.mem_cons, List.not_mem_nil, or_false] at hus
  rcases hus with rfl | rfl
  · exact ⟨hts.groups, hts.visible, hts.outside_groups⟩
  · exact ⟨hds.groups, hds.visible, hds.outside_groups⟩

/-- Commands written in a text and in a destination are no commands. -/
example :
    Tex.commands (Tex.tokens (Dialect.latex.render (.bulletList (some [.listItem (some
      [.text "\\end\x7bitemize\x7d%"
        (some [.link (some { href := some "\\item \x7d" })])])]))).text)
      = [.opens "itemize", .item, .closes "itemize"] := by
  decide

end Latex

end RichText
