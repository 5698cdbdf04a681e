import Mathlib.Data.List.Induction
import RichText.Markup.Target
import RichText.Proofs.Latex.Reading

/-!
Reading a run of text back from its LaTeX. The commands of its marks stand in front of the text, the
outermost first, and nothing in an escaped text looks like one of them; so the text and the marks
can be told apart, whatever the text and the destinations hold. Of a destination, the characters
that cannot be written in an argument come back percent-encoded.
-/

set_option autoImplicit false
set_option relaxedAutoImplicit false

namespace RichText

open Tex (tokens)

namespace Latex

/-- The percent-encoding of the characters that cannot be written in an argument. -/
def encodeUrlChar : Char → List Char
  | '\\' => ['%', '5', 'C']
  | '{' => ['%', '7', 'B']
  | '}' => ['%', '7', 'D']
  | c => [c]

def encodeUrl (cs : List Char) : List Char := cs.flatMap encodeUrlChar

inductive WrittenMark
  | bold
  | italic
  | link (destination : List Char)
  deriving DecidableEq

def written : Mark → WrittenMark
  | .bold => .bold
  | .italic => .italic
  | .link a => .link (encodeUrl (LinkAttributes.destination a).toList)

/-- The character that a token stands for. Braces only group, and other words stand for none. -/
def character? : Tex.Token → Option Char
  | .char c => if c = '{' || c = '}' then none else some c
  | .control [c] => some c
  | .control name =>
    if name = "textbackslash".toList then some '\\'
    else if name = "textasciitilde".toList then some '~'
    else if name = "textasciicircum".toList then some '^'
    else none

/-- The marks in front of a text, the outermost first, and the tokens behind them. With
`destination` the tokens are those of a link, whose destination is read so far. -/
def readMarks (destination : Option (List Char)) :
    List Tex.Token → List WrittenMark × List Tex.Token
  | [] => ([], [])
  | t :: rest => match destination with
    | some url =>
      if t = .char '}' then
        let (marks, text) := readMarks none rest
        (.link url :: marks, text)
      else readMarks (some (url ++ (character? t).toList)) rest
    | none =>
      if t = .char '{' then readMarks none rest
      else if t = .control "textbf".toList then
        let (marks, text) := readMarks none rest
        (.bold :: marks, text)
      else if t = .control "textit".toList then
        let (marks, text) := readMarks none rest
        (.italic :: marks, text)
      else if t = .control "href".toList then readMarks (some []) rest
      else ([], t :: rest)

/-- The text and the marks, the innermost first, that a LaTeX run of text is made of. -/
def decode (s : String) : String × List WrittenMark :=
  let (marks, text) := readMarks none (tokens s.toList)
  (String.ofList (text.filterMap character?), marks.reverse)

def markTokens : List Tex.Token :=
  [.char '{', .control "textbf".toList, .control "textit".toList, .control "href".toList]

private theorem readMarks_text {t : Tex.Token} (ht : t ∉ markTokens) (rest : List Tex.Token) :
    readMarks none (t :: rest) = ([], t :: rest) := by
  simp only [markTokens, List.mem_cons, List.not_mem_nil, or_false, not_or] at ht
  simp only [readMarks, if_neg ht.1, if_neg ht.2.1, if_neg ht.2.2.1, if_neg ht.2.2.2]

theorem tokens_command {name : List Char} (hne : name ≠ []) (hname : name.all Char.isAlpha = true)
    (cs : List Char) :
    tokens ('\\' :: (name ++ '{' :: cs)) = .control name :: .char '{' :: tokens cs := by
  rw [Tex.tokens_word hne hname (by decide), Tex.tokens_char (by decide)]

private theorem tokens_escapeChar (c : Char) (cs : List Char) :
    ∃ t ts, tokens (escapeChar c ++ cs) = t :: (ts ++ tokens cs) ∧
      (t :: ts).filterMap character? = [c] ∧ t ∉ markTokens := by
  have hword : ∀ name : List Char, name ≠ [] → name.all Char.isAlpha = true →
      tokens ('\\' :: (name ++ '{' :: '}' :: cs)) =
        .control name :: ([.char '{', .char '}'] ++ tokens cs) := by
    intro name hne hname
    rw [tokens_command hne hname, Tex.tokens_char (by decide)]
    rfl
  have hsymbol : ∀ s : Char, s.isAlpha = false → .control [s] ∉ markTokens →
      ∃ t ts, tokens ('\\' :: s :: cs) = t :: (ts ++ tokens cs) ∧
        (t :: ts).filterMap character? = [s] ∧ t ∉ markTokens :=
    fun s hs hm => ⟨.control [s], [], Tex.tokens_symbol hs cs, rfl, hm⟩
  unfold escapeChar
  split
  · exact ⟨_, _, hword "textbackslash".toList (by decide) (by decide), by decide, by decide⟩
  · exact hsymbol '{' (by decide) (by decide)
  · exact hsymbol '}' (by decide) (by decide)
  · exact hsymbol '$' (by decide) (by decide)
  · exact hsymbol '%' (by decide) (by decide)
  · exact hsymbol '&' (by decide) (by decide)
  · exact hsymbol '#' (by decide) (by decide)
  · exact hsymbol '_' (by decide) (by decide)
  · exact ⟨_, _, hword "textasciitilde".toList (by decide) (by decide), by decide, by decide⟩
  · exact ⟨_, _, hword "textasciicircum".toList (by decide) (by decide), by decide, by decide⟩
  · next hb ho hc _ _ _ _ _ _ _ =>
    have hm : Tex.Token.char c ∉ markTokens := by
      simp only [markTokens, List.mem_cons, List.not_mem_nil, or_false, reduceCtorEq,
        Tex.Token.char.injEq]
      exact ho
    have hs : character? (.char c) = some c := by
      rw [character?, if_neg]
      simpa using ⟨ho, hc⟩
    exact ⟨.char c, [], Tex.tokens_char hb cs, List.filterMap_cons_some hs, hm⟩

private theorem filterMap_escape (t cs : List Char) :
    (tokens (escape t ++ cs)).filterMap character? =
      t ++ (tokens cs).filterMap character? := by
  induction t with
  | nil => rfl
  | cons c t ih =>
    obtain ⟨x, xs, htokens, hc, -⟩ := tokens_escapeChar c (escape t ++ cs)
    rw [escape, List.flatMap_cons, List.append_assoc, ← escape, htokens, ← List.cons_append,
      List.filterMap_append, hc, ih]
    rfl

def closers (n : Nat) : List Char := List.replicate n '}'

private theorem tokens_closers_succ (n : Nat) :
    tokens (closers (n + 1)) = .char '}' :: tokens (closers n) :=
  Tex.tokens_char (by decide) _

private theorem filterMap_closers (n : Nat) : (tokens (closers n)).filterMap character? = [] := by
  induction n with
  | zero => rfl
  | succ n ih =>
    rw [tokens_closers_succ, List.filterMap_cons_none (by decide), ih]

private theorem readMarks_escape (t : List Char) (n : Nat) :
    readMarks none (tokens (escape t ++ closers n)) = ([], tokens (escape t ++ closers n)) := by
  cases t with
  | nil =>
    cases n with
    | zero => rfl
    | succ n =>
      change readMarks none (tokens (closers (n + 1))) = ([], tokens (closers (n + 1)))
      rw [tokens_closers_succ]
      exact readMarks_text (by decide) _
  | cons c t =>
    obtain ⟨x, xs, htokens, -, hx⟩ := tokens_escapeChar c (escape t ++ closers n)
    rw [escape, List.flatMap_cons, List.append_assoc, ← escape, htokens]
    exact readMarks_text hx _

private theorem readMarks_destination_cons {x : Tex.Token} (hx : x ≠ .char '}') (url : List Char)
    (rest : List Tex.Token) :
    readMarks (some url) (x :: rest) = readMarks (some (url ++ (character? x).toList)) rest := by
  simp only [readMarks, if_neg hx]

private theorem readMarks_escapeUrlChar (c : Char) (url cs : List Char) :
    readMarks (some url) (tokens (escapeUrlChar c ++ cs)) =
      readMarks (some (url ++ encodeUrlChar c)) (tokens cs) := by
  have hchar : ∀ (a : Char) (us rest : List Char), a ∉ Tex.reserved →
      readMarks (some us) (tokens (a :: rest)) = readMarks (some (us ++ [a])) (tokens rest) := by
    intro a us rest ha
    simp only [Tex.reserved, List.mem_cons, List.not_mem_nil, or_false, not_or] at ha
    rw [Tex.tokens_char ha.1, readMarks_destination_cons (by simpa using ha.2.2.1)]
    simp [character?, ha.2.1, ha.2.2.1]
  have hsign : ∀ (a : Char) (rest : List Char), a.isAlpha = false →
      readMarks (some url) (tokens ('\\' :: a :: rest)) =
        readMarks (some (url ++ [a])) (tokens rest) := by
    intro a rest ha
    rw [Tex.tokens_symbol ha, readMarks_destination_cons (by simp)]
    rfl
  have hcode : ∀ a b : Char, a ∉ Tex.reserved → b ∉ Tex.reserved →
      readMarks (some url) (tokens ('\\' :: '%' :: a :: b :: cs)) =
        readMarks (some (url ++ ['%', a, b])) (tokens cs) := by
    intro a b ha hb
    rw [hsign '%' _ (by decide), hchar a _ _ ha, hchar b _ _ hb]
    simp only [List.append_assoc, List.cons_append, List.nil_append]
  unfold escapeUrlChar
  split
  · exact hsign '%' cs (by decide)
  · exact hsign '#' cs (by decide)
  · exact hcode '5' 'C' (by decide) (by decide)
  · exact hcode '7' 'B' (by decide) (by decide)
  · exact hcode '7' 'D' (by decide) (by decide)
  · next hp _ hb ho hc =>
    have hr : c ∉ Tex.reserved := by
      simp only [Tex.reserved, List.mem_cons, List.not_mem_nil, or_false, not_or]
      exact ⟨hb, ho, hc, hp⟩
    have he : encodeUrlChar c = [c] := by simp [encodeUrlChar]
    rw [he]
    exact hchar c url cs hr

private theorem readMarks_escapeUrl (u url cs : List Char) :
    readMarks (some url) (tokens (escapeUrl u ++ cs)) =
      readMarks (some (url ++ encodeUrl u)) (tokens cs) := by
  induction u generalizing url with
  | nil => simp [escapeUrl, encodeUrl]
  | cons c u ih =>
    rw [escapeUrl, List.flatMap_cons, List.append_assoc, ← escapeUrl, readMarks_escapeUrlChar, ih,
      encodeUrl, encodeUrl, List.flatMap_cons, List.append_assoc]

private theorem readMarks_wrap (m : Mark) (body : List Char) (n : Nat) :
    readMarks none (tokens (wrap m body ++ closers n)) =
      (written m :: (readMarks none (tokens (body ++ closers (n + 1)))).1,
        (readMarks none (tokens (body ++ closers (n + 1)))).2) := by
  have hclose : ∀ cs : List Char, cs ++ ['}'] ++ closers n = cs ++ closers (n + 1) := by
    intro cs
    rw [List.append_assoc]
    rfl
  have hcommand : ∀ (name : String) (cs : List Char),
      command name cs ++ closers n = '\\' :: (name.toList ++ '{' :: (cs ++ closers (n + 1))) := by
    intro name cs
    rw [← hclose]
    simp [command]
  cases m with
  | bold =>
    rw [wrap, hcommand, tokens_command (by decide) (by decide)]
    rfl
  | italic =>
    rw [wrap, hcommand, tokens_command (by decide) (by decide)]
    rfl
  | link a =>
    have hsplit : wrap (.link a) body ++ closers n =
        '\\' :: ("href".toList ++ '{' :: (escapeUrl (LinkAttributes.destination a).toList ++
          '}' :: '{' :: (body ++ closers (n + 1)))) := by
      rw [← hclose]
      simp [wrap, command]
    rw [hsplit, tokens_command (by decide) (by decide)]
    have hopen : ∀ ts : List Tex.Token,
        readMarks none (.control "href".toList :: .char '{' :: ts) = readMarks (some []) ts :=
      fun _ => rfl
    rw [hopen, readMarks_escapeUrl, Tex.tokens_char (by decide), Tex.tokens_char (by decide)]
    rfl

private theorem readMarks_applyMarks (marks : List Mark) (t : List Char) (n : Nat) :
    readMarks none (tokens (Dialect.latex.applyMarks marks (escape t) ++ closers n)) =
      ((marks.map written).reverse, tokens (escape t ++ closers (n + marks.length))) := by
  induction marks using List.reverseRecOn generalizing n with
  | nil => exact readMarks_escape t n
  | append_singleton marks m ih =>
    have hwrap : Dialect.latex.applyMarks (marks ++ [m]) (escape t) =
        wrap m (Dialect.latex.applyMarks marks (escape t)) := by
      rw [Dialect.applyMarks_append]
      rfl
    have hn : n + 1 + marks.length = n + (marks ++ [m]).length := by
      rw [List.length_append, List.length_singleton]
      omega
    rw [hwrap, readMarks_wrap, ih, hn, List.map_append, List.reverse_append]
    rfl

private theorem decode_text (t : String) (marks : Option (List Mark)) :
    decode (Node.text t marks).latex = (t, (marks.getD []).map written) := by
  have hlatex : (Node.text t marks).latex.toList =
      Dialect.latex.applyMarks (marks.getD []) (escape t.toList) ++ closers 0 := by
    simp [Node.latex, Dialect.render, Rendering.ofText, Dialect.run, Dialect.latex, closers]
  rw [decode, hlatex, readMarks_applyMarks]
  simp only [filterMap_escape, filterMap_closers, List.append_nil, String.ofList_toList,
    List.reverse_reverse]

private theorem escape_eq_iff (s t : List Char) : escape s = escape t ↔ s = t := by
  refine ⟨fun h => ?_, fun h => by rw [h]⟩
  have hread : ∀ u : List Char, (tokens (escape u)).filterMap character? = u := by
    intro u
    have he := filterMap_escape u []
    rwa [List.append_nil, show tokens [] = [] from rfl, List.filterMap_nil, List.append_nil] at he
  rw [← hread s, h, hread]

/-- The escape of a destination is that of the two signs left in its percent-encoding. -/
theorem escapeUrl_eq_flatMap (u : List Char) :
    escapeUrl u = (encodeUrl u).flatMap fun c => if c ∈ ['%', '#'] then ['\\', c] else [c] := by
  have hchar : ∀ c : Char, escapeUrlChar c =
      (encodeUrlChar c).flatMap fun c => if c ∈ ['%', '#'] then ['\\', c] else [c] := by
    intro c
    unfold escapeUrlChar
    split
    · rfl
    · rfl
    · rfl
    · rfl
    · rfl
    · next hp hh _ _ _ =>
      have he : encodeUrlChar c = [c] := by simp [encodeUrlChar]
      have hc : c ∉ ['%', '#'] := by simpa using ⟨hp, hh⟩
      rw [he, List.flatMap_singleton, if_neg hc]
  rw [escapeUrl, encodeUrl, List.flatMap_assoc]
  exact congrArg (u.flatMap ·) (funext hchar)

private theorem escapeUrl_eq_iff (u v : List Char) :
    escapeUrl u = escapeUrl v ↔ encodeUrl u = encodeUrl v := by
  refine ⟨fun h => ?_, fun h => by rw [escapeUrl_eq_flatMap, escapeUrl_eq_flatMap, h]⟩
  have hread : ∀ w : List Char,
      readMarks (some []) (tokens (escapeUrl w ++ ['}'])) = ([.link (encodeUrl w)], []) :=
    fun w => readMarks_escapeUrl w [] ['}']
  have hu := hread u
  rw [h, hread v] at hu
  simpa using hu.symm

private theorem wrap_eq_of_written {m n : Mark} (h : written m = written n) (t : List Char) :
    wrap m t = wrap n t := by
  cases m <;> cases n <;> simp only [written, reduceCtorEq] at h
  · rfl
  · rfl
  · rw [wrap, wrap, (escapeUrl_eq_iff _ _).mpr (WrittenMark.link.inj h)]

private theorem applyMarks_eq_of_written {ms ns : List Mark} (h : ms.map written = ns.map written)
    (t : List Char) : Dialect.latex.applyMarks ms t = Dialect.latex.applyMarks ns t := by
  induction ms generalizing ns t with
  | nil => rw [List.map_eq_nil_iff.mp h.symm]
  | cons m ms ih =>
    obtain ⟨n, ns, rfl, hm, hms⟩ := List.map_eq_cons_iff.mp h.symm
    have hw : Dialect.latex.wrap m t = Dialect.latex.wrap n t := wrap_eq_of_written hm.symm t
    rw [Dialect.applyMarks_cons, Dialect.applyMarks_cons, hw]
    exact ih hms.symm _

/-- The LaTeX of a run of text decodes to its text and its marks, the destinations of links
percent-encoded. So two runs have the same LaTeX exactly where they agree in both; escaping a text
loses nothing, and escaping a destination only what the percent-encoding does. -/
theorem decode_latex :
    (∀ (t : String) (ms : Option (List Mark)),
      decode (Node.text t ms).latex = (t, (ms.getD []).map written)) ∧
    (∀ (t u : String) (ms ns : Option (List Mark)),
      (Node.text t ms).latex = (Node.text u ns).latex ↔
        t = u ∧ (ms.getD []).map written = (ns.getD []).map written) ∧
    (∀ s t : List Char, escape s = escape t ↔ s = t) ∧
    (∀ u v : List Char, escapeUrl u = escapeUrl v ↔ encodeUrl u = encodeUrl v) := by
  refine ⟨decode_text, ?_, escape_eq_iff, escapeUrl_eq_iff⟩
  intro t u ms ns
  constructor
  · intro h
    have hd := congrArg decode h
    rw [decode_text, decode_text] at hd
    exact Prod.mk.inj hd
  · rintro ⟨rfl, hm⟩
    have ht := applyMarks_eq_of_written hm (escape t.toList)
    exact congrArg String.ofList ht

/-- A text that is LaTeX source itself, in a link whose destination holds what its group cannot. -/
example :
    decode (Node.text "\\textbf\x7bx\x7d"
      (some [.bold, .link (some { href := some "%5C\\" })])).latex =
         ("\\textbf\x7bx\x7d", [.bold, .link "%5C%5C".toList]) := by
  rfl

end Latex

end RichText
