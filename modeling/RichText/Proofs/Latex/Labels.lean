import RichText.Proofs.Latex.Pieces

/-!
The label of an item. TeX takes a bracket that comes next behind the command of an item for the
start of a label, and looks for it behind blanks up to the first blank line. A reader that goes
through a text once and keeps in mind what stands behind the last item finds out whether this
happens.
-/

set_option autoImplicit false
set_option relaxedAutoImplicit false

namespace RichText.Tex

def blanks : List Char := [' ', '\t', '\n']

/-- A bracket comes next behind blanks, with at most one line break, those before included. -/
def LabelNext (breaks : Nat) (ts : List Token) : Prop :=
  ∃ (between : List Char) (rest : List Token), ts = between.map .char ++ .char '[' :: rest ∧
    (∀ c ∈ between, c ∈ blanks) ∧ breaks + between.count '\n' ≤ 1

/-- Somewhere a label comes next behind an item. -/
def TakesLabel (ts : List Token) : Prop :=
  ∃ before rest, ts = before ++ .control "item".toList :: rest ∧ LabelNext 0 rest

/-- What a reader has in mind: nothing, that only blanks were read since the last item, with line
breaks among them and at their end, or that an item has taken a label. -/
inductive Scan
  | idle
  | behind (breaks trailing : Nat)
  | labelled
  deriving DecidableEq, Repr

namespace Scan

def char (s : Scan) (c : Char) : Scan :=
  match s with
  | .behind breaks trailing =>
    if c = '\n' then .behind breaks (trailing + 1)
    else if c = ' ' ∨ c = '\t' then .behind (breaks + trailing) 0
    else if c = '[' ∧ breaks + trailing ≤ 1 then .labelled
    else .idle
  | s => s

def other : Scan → Scan
  | .labelled => .labelled
  | _ => .idle

def item : Scan → Scan
  | .labelled => .labelled
  | _ => .behind 0 0

def dropBreaks : Scan → Scan
  | .behind breaks _ => .behind breaks 0
  | s => s

def token (s : Scan) : Token → Scan
  | .char c => s.char c
  | .control name => if name = "item".toList then s.item else s.other

def read (s : Scan) (ts : List Token) : Scan := ts.foldl token s

theorem read_append (s : Scan) (ts us : List Token) : s.read (ts ++ us) = (s.read ts).read us :=
  List.foldl_append

end Scan

variable {ts : List Token} {k : Nat}

private theorem not_labelNext_nil : ¬ LabelNext k [] := by
  rintro ⟨between, rest, hts, -⟩
  simp at hts

private theorem not_labelNext_control (name : List Char) : ¬ LabelNext k (.control name :: ts) := by
  rintro ⟨between, rest, hts, -⟩
  cases between <;> cases hts

private theorem breaks_cons (k : Nat) (c : Char) (cs : List Char) :
    (if c = '\n' then k + 1 else k) + cs.count '\n' = k + (c :: cs).count '\n' := by
  by_cases hc : c = '\n'
  · simp only [hc, if_true, List.count_cons_self]
    omega
  · rw [if_neg hc, List.count_cons_of_ne hc]

private theorem labelNext_char {c : Char} : LabelNext k (.char c :: ts) ↔
    c = '[' ∧ k ≤ 1 ∨ c ∈ blanks ∧ LabelNext (if c = '\n' then k + 1 else k) ts := by
  constructor
  · rintro ⟨between, rest, hts, hblank, hcount⟩
    cases between with
    | nil =>
      obtain ⟨hc, rfl⟩ := List.cons.inj hts
      exact .inl ⟨Token.char.inj hc, hcount⟩
    | cons d between =>
      obtain ⟨hd, rfl⟩ := List.cons.inj hts
      obtain rfl := Token.char.inj hd
      refine .inr ⟨hblank c List.mem_cons_self, between, rest, rfl,
        fun x hx => hblank x (List.mem_cons_of_mem c hx), ?_⟩
      rw [breaks_cons]
      exact hcount
  · rintro (⟨rfl, hk⟩ | ⟨hc, between, rest, rfl, hblank, hcount⟩)
    · exact ⟨[], ts, rfl, fun x hx => absurd hx List.not_mem_nil, hk⟩
    · refine ⟨c :: between, rest, rfl, ?_, ?_⟩
      · intro x hx
        rcases List.mem_cons.mp hx with rfl | hx
        · exact hc
        · exact hblank x hx
      · rw [← breaks_cons]
        exact hcount

private theorem not_takesLabel_nil : ¬ TakesLabel [] := by
  rintro ⟨before, rest, hts, -⟩
  simp at hts

private theorem takesLabel_cons {t : Token} :
    TakesLabel (t :: ts) ↔ t = .control "item".toList ∧ LabelNext 0 ts ∨ TakesLabel ts := by
  constructor
  · rintro ⟨before, rest, hts, hlabel⟩
    cases before with
    | nil =>
      obtain ⟨rfl, rfl⟩ := List.cons.inj hts
      exact .inl ⟨rfl, hlabel⟩
    | cons x before =>
      obtain ⟨rfl, rfl⟩ := List.cons.inj hts
      exact .inr ⟨before, rest, rfl, hlabel⟩
  · rintro (⟨rfl, hlabel⟩ | ⟨before, rest, rfl, hlabel⟩)
    · exact ⟨[], ts, rfl, hlabel⟩
    · exact ⟨t :: before, rest, rfl, hlabel⟩

namespace Scan

variable {s : Scan}

def Finds : Scan → List Token → Prop
  | .idle, _ => False
  | .behind breaks trailing, ts => LabelNext (breaks + trailing) ts
  | .labelled, _ => True

private theorem finds_nil : s.Finds [] ↔ s = .labelled := by
  cases s <;> simp [Finds, not_labelNext_nil]

private theorem finds_control {name : List Char} :
    s.Finds (.control name :: ts) ↔ s = .labelled := by
  cases s <;> simp [Finds, not_labelNext_control]

private theorem finds_item : s.item.Finds ts ↔ s = .labelled ∨ LabelNext 0 ts := by
  cases s <;> simp [Finds, item]

private theorem finds_other : s.other.Finds ts ↔ s = .labelled := by
  cases s <;> simp [Finds, other]

private theorem finds_char {c : Char} : (s.char c).Finds ts ↔ s.Finds (.char c :: ts) := by
  cases s with
  | idle | labelled => rfl
  | behind breaks trailing =>
    rw [Finds, labelNext_char, char]
    by_cases hbreak : c = '\n'
    · subst hbreak
      simp [Finds, blanks, Nat.add_assoc]
    · by_cases hblank : c = ' ' ∨ c = '\t'
      · have hbracket : c ≠ '[' := by
          rintro rfl
          exact absurd hblank (by decide)
        have hmem : c ∈ blanks := by
          rcases hblank with rfl | rfl <;> decide
        simp [Finds, hbreak, hblank, hbracket, hmem]
      · have hmem : c ∉ blanks := by
          simpa [blanks, hbreak, not_or] using hblank
        rw [if_neg hbreak, if_neg hblank]
        split
        · next h => simp [Finds, h]
        · next h => simp [Finds, h, hmem]

private theorem read_eq_labelled_iff (s : Scan) (ts : List Token) :
    s.read ts = .labelled ↔ s.Finds ts ∨ TakesLabel ts := by
  induction ts generalizing s with
  | nil => simp [read, finds_nil, not_takesLabel_nil]
  | cons x ts ih =>
    have hcons : s.read (x :: ts) = (s.token x).read ts := rfl
    rw [hcons, ih, takesLabel_cons]
    cases x with
    | char c =>
      have hitem : Token.char c ≠ .control "item".toList := nofun
      simp only [token, finds_char, hitem, false_and, false_or]
    | control name =>
      rw [finds_control]
      by_cases hname : name = "item".toList
      · have htoken : s.token (.control name) = s.item := if_pos hname
        rw [htoken, finds_item, hname]
        tauto
      · have htoken : s.token (.control name) = s.other := if_neg hname
        have hitem : Token.control name ≠ .control "item".toList := fun h =>
          hname (Token.control.inj h)
        simp only [htoken, finds_other, hitem, false_and, false_or]

theorem takesLabel_iff (ts : List Token) : TakesLabel ts ↔ idle.read ts = .labelled := by
  rw [read_eq_labelled_iff]
  exact (or_iff_right id).symm

end Scan

theorem Pieces.tokens_append {words : List String} {d e : Nat} {a : List Char} {es : List Command}
    (h : Pieces words d a es e) (b : List Char) : tokens (a ++ b) = tokens a ++ tokens b := by
  induction h with
  | nil d => rfl
  | @char d e c cs es hc _ ih =>
    have hb : c ≠ '\\' := by
      rintro rfl
      exact hc (by decide)
    rw [List.cons_append, tokens_char hb, tokens_char hb, ih, List.cons_append]
  | opening _ ih | closing _ ih =>
    rw [List.cons_append, tokens_char (by decide), tokens_char (by decide), ih, List.cons_append]
  | @symbol d e c cs es hc _ ih =>
    have hs : c.isAlpha = false :=
      Text.forall_mem_of_all (p := fun x => x.isAlpha = false) (by decide) c hc
    rw [List.cons_append, List.cons_append, tokens_symbol hs, tokens_symbol hs, ih,
      List.cons_append]
  | word hw _ _ ih =>
    rw [List.cons_append, List.append_assoc, List.cons_append, tokens_word hw.1 hw.2.1 (by decide),
      tokens_word hw.1 hw.2.1 (by decide), tokens_char (by decide), tokens_char (by decide), ih]
    rfl
  | item _ ih =>
    rw [List.cons_append, List.append_assoc, List.cons_append,
      tokens_word (by decide) (by decide) (by decide),
      tokens_word (by decide) (by decide) (by decide), tokens_char (by decide),
      tokens_char (by decide), ih]
    rfl
  | @opens e name cs es hn _ ih =>
    have hs : ∀ xs, Latex.command "begin" name.toList ++ xs =
        '\\' :: "begin".toList ++ ['{'] ++ name.toList ++ ['}'] ++ xs := fun _ => rfl
    rw [List.append_assoc, hs, hs, tokens_environment (by decide) (by decide) hn,
      tokens_environment (by decide) (by decide) hn, ih]
    simp
  | @closes e name cs es hn _ ih =>
    have hs : ∀ xs, Latex.command "end" name.toList ++ xs =
        '\\' :: "end".toList ++ ['{'] ++ name.toList ++ ['}'] ++ xs := fun _ => rfl
    rw [List.append_assoc, hs, hs, tokens_environment (by decide) (by decide) hn,
      tokens_environment (by decide) (by decide) hn, ih]
    simp

private theorem tokensFrom_zero_eq_nil {cs : List Char} (h : tokensFrom 0 cs = []) : cs = [] := by
  cases cs with
  | nil => rfl
  | cons c cs =>
    rw [tokensFrom] at h
    split at h <;> cases h

private theorem getLast?_of_tokensFrom {c : Char} (k : Nat) (cs : List Char)
    (h : (tokensFrom k cs).getLast? = some (.char c)) : cs.getLast? = some c := by
  induction cs generalizing k with
  | nil => cases h
  | cons x cs ih =>
    have hrest : ∀ k, (tokensFrom k cs).getLast? = some (.char c) →
        (x :: cs).getLast? = some c := by
      intro k hk
      rw [List.getLast?_cons, ih k hk]
      rfl
    cases k with
    | succ k => exact hrest k h
    | zero =>
      rw [tokensFrom] at h
      split at h
      · rw [List.getLast?_cons] at h
        cases hl : (tokensFrom (controlName cs).length cs).getLast? with
        | none =>
          rw [hl] at h
          cases h
        | some t =>
          rw [hl] at h
          exact hrest _ (hl.trans h)
      · rw [List.getLast?_cons] at h
        cases hl : (tokensFrom 0 cs).getLast? with
        | none =>
          rw [hl] at h
          rw [tokensFrom_zero_eq_nil (List.getLast?_eq_none_iff.mp hl)]
          exact congrArg some (Token.char.inj (Option.some.inj h))
        | some t =>
          rw [hl] at h
          exact hrest _ (hl.trans h)

namespace Scan

variable {s : Scan}

private theorem dropBreaks_break (s : Scan) : (s.char '\n').dropBreaks = s.dropBreaks := by
  cases s <;> rfl

private theorem dropBreaks_token {t : Token} (s : Scan) (ht : t ≠ .char '\n') :
    (s.token t).dropBreaks = s.token t := by
  cases t with
  | control name =>
    rw [token]
    split
    · cases s <;> rfl
    · cases s <;> rfl
  | char c =>
    have hc : c ≠ '\n' := fun h => ht (congrArg Token.char h)
    cases s with
    | idle | labelled => rfl
    | behind breaks trailing =>
      rw [token, char, if_neg hc]
      split
      · rfl
      · split <;> rfl

private theorem dropBreaks_read (hs : s.dropBreaks = s) (hts : ts.getLast? ≠ some (.char '\n')) :
    (s.read ts).dropBreaks = s.read ts := by
  induction ts using List.reverseRecOn with
  | nil => exact hs
  | append_singleton ts t _ =>
    rw [read_append]
    refine dropBreaks_token _ ?_
    rintro rfl
    exact hts List.getLast?_concat

theorem read_dropLineBreaks {words : List String} {d e : Nat} {cs : List Char} {es : List Command}
    (h : Pieces words d cs es e) (hs : s.dropBreaks = s) :
    s.read (tokens (dropLineBreaks cs)) = (s.read (tokens cs)).dropBreaks := by
  induction cs using List.reverseRecOn with
  | nil => exact hs.symm
  | append_singleton cs c ih =>
    by_cases hc : c = '\n'
    · subst hc
      have hd : dropLineBreaks (cs ++ ['\n']) = dropLineBreaks cs := by simp [dropLineBreaks]
      rw [hd, ih h.of_snoc, h.of_snoc.tokens_append, read_append]
      exact (dropBreaks_break _).symm
    · have hd : dropLineBreaks (cs ++ [c]) = cs ++ [c] := by simp [dropLineBreaks, hc]
      rw [hd]
      refine (dropBreaks_read hs fun hlast => hc ?_).symm
      have hend := getLast?_of_tokensFrom 0 _ hlast
      rw [List.getLast?_concat] at hend
      exact Option.some.inj hend

end Scan

end RichText.Tex
