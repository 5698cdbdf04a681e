import RichText.Json.Reader
import RichText.Proofs.Json.Number
import RichText.Proofs.Json.Quoted

/-!
JSON documents read back from their texts. The reader is a machine driven by tokens; the text of a
document takes it from waiting for a value to having that value, whatever stands on its stack and
wherever the text stands. Documents without fractions whose objects have each name once are read
back exactly, on one line and in every indentation.
-/

set_option autoImplicit false
set_option relaxedAutoImplicit false

namespace RichText.Json

/-! The tokens of a text that begins with a known piece. -/

private theorem tokens_skip (offset : Nat) (a b : List Char) :
    tokens offset a.length (a ++ b) = tokens (offset + a.length) 0 b := by
  induction a generalizing offset with
  | nil => rfl
  | cons c a ih =>
    rw [List.cons_append, List.length_cons, tokens, ih]
    congr 1
    omega

private theorem tokens_space {c : Char} (hc : isSpace c = true) (offset : Nat) (rest : List Char) :
    tokens offset 0 (c :: rest) = tokens (offset + 1) 0 rest := by
  rw [tokens, if_pos hc]

private theorem tokens_mark {c : Char} {m : Token} (hs : isSpace c = false) (hm : mark? c = some m)
    (offset : Nat) (rest : List Char) :
    tokens offset 0 (c :: rest) = ⟨offset, m⟩ :: tokens (offset + 1) 0 rest := by
  rw [tokens, if_neg (by simp [hs]), hm]

private theorem tokens_text (s : String) (offset : Nat) (rest : List Char) :
    ∃ next, tokens offset 0 (printText s ++ rest) = ⟨offset, .text s⟩ :: tokens next 0 rest := by
  have hread := readText_flatMap s.toList offset (offset + 1) rest
  have hskip := tokens_skip (offset + 1) (s.toList.flatMap escapeChar ++ ['"']) rest
  have hs : printText s ++ rest = '"' :: (s.toList.flatMap escapeChar ++ '"' :: rest) := by
    simp [printText]
  have hm : mark? '"' = none := rfl
  rw [List.append_assoc] at hskip
  refine ⟨offset + 1 + (s.toList.flatMap escapeChar ++ ['"']).length, ?_⟩
  rw [hs, tokens, if_neg (by decide), hm]
  simp only [if_pos, hread, String.ofList_toList]
  rw [← hskip, List.length_append]
  rfl

private theorem tokens_literal {c : Char} {cs : List Char} {j : Json} (hs : isSpace c = false)
    (hm : mark? c = none) (hq : c ≠ '"') (rest : List Char)
    (hl : literal? (c :: cs ++ rest) = some (j, cs.length + 1)) (offset : Nat) :
    ∃ next, tokens offset 0 (c :: cs ++ rest) = ⟨offset, .literal j⟩ :: tokens next 0 rest := by
  refine ⟨offset + 1 + cs.length, ?_⟩
  rw [List.cons_append] at hl ⊢
  rw [tokens, if_neg (by simp [hs]), hm]
  simp only [if_neg hq, hl, Nat.add_sub_cancel, tokens_skip]

/-! What a piece of text does to the machine. -/

/-- In front of `rest` the text takes the machine from one state to another, wherever it stands. -/
def Leads (s : Expected × List Frame) (text rest : List Char) (t : Expected × List Frame) : Prop :=
  ∀ offset, ∃ next, run s.1 s.2 (tokens offset 0 (text ++ rest)) = run t.1 t.2 (tokens next 0 rest)

variable {s t u : Expected × List Frame} {a b : List Char}

theorem Leads.nil (rest : List Char) : Leads s [] rest s := fun offset => ⟨offset, rfl⟩

theorem Leads.append {rest : List Char} (ha : Leads s a (b ++ rest) t) (hb : Leads t b rest u) :
    Leads s (a ++ b) rest u := by
  intro offset
  obtain ⟨middle, hm⟩ := ha offset
  obtain ⟨next, hn⟩ := hb middle
  exact ⟨next, by rw [List.append_assoc, hm, hn]⟩

private theorem leads_spaces (ha : ∀ c ∈ a, isSpace c = true) (rest : List Char) :
    Leads s a rest s := by
  induction a with
  | nil => exact Leads.nil rest
  | cons c a ih =>
    have hc : Leads s [c] (a ++ rest) s := fun offset =>
      ⟨offset + 1, by rw [List.singleton_append, tokens_space (ha c List.mem_cons_self)]⟩
    exact hc.append (ih fun x hx => ha x (List.mem_cons_of_mem c hx))

private theorem leads_space (rest : List Char) : Leads s [' '] rest s :=
  leads_spaces (Text.forall_mem_of_all (by decide)) rest

theorem run_cons {e : Expected} {stack : List Frame} {p : Placed} (hp : p.token ≠ .finish)
    (ps : List Placed) (h : step e stack p = .ok t) : run e stack (p :: ps) = run t.1 t.2 ps := by
  rw [run, h]
  exact fun _ _ ht => hp ht

private theorem leads_token {k : Token} {rest : List Char} (hk : k ≠ .finish)
    (ht : ∀ offset, ∃ next, tokens offset 0 (a ++ rest) = ⟨offset, k⟩ :: tokens next 0 rest)
    (h : ∀ offset, step s.1 s.2 ⟨offset, k⟩ = .ok t) : Leads s a rest t := by
  intro offset
  obtain ⟨next, hn⟩ := ht offset
  exact ⟨next, by rw [hn, run_cons hk _ (h offset)]⟩

private theorem leads_mark {c : Char} {k : Token} (hk : k ≠ .finish) (hs : isSpace c = false)
    (hm : mark? c = some k) (h : ∀ offset, step s.1 s.2 ⟨offset, k⟩ = .ok t) (rest : List Char) :
    Leads s [c] rest t :=
  leads_token hk (fun offset => ⟨offset + 1, tokens_mark hs hm offset rest⟩) h

private theorem leads_text (closable : Bool) (stack : List Frame) (v : String) (rest : List Char) :
    Leads (.value closable, stack) (printText v) rest (complete (.text v) stack) :=
  leads_token Token.noConfusion (fun offset => tokens_text v offset rest) fun _ => rfl

private theorem leads_name (closable : Bool) (fields : List (String × Json)) (stack : List Frame)
    (name : String) (rest : List Char) :
    Leads (.name closable, .object fields :: stack) (printText name ++ [':', ' ']) rest
      (.value false, .named fields name :: stack) := by
  have hname : Leads (.name closable, .object fields :: stack) (printText name)
      ([':', ' '] ++ rest) (.colon, .named fields name :: stack) :=
    leads_token Token.noConfusion (fun offset => tokens_text name offset _) fun _ => rfl
  have hcolon : ∀ more, Leads (.colon, .named fields name :: stack) [':'] more
      (.value false, .named fields name :: stack) :=
    leads_mark Token.noConfusion rfl rfl fun _ => rfl
  exact hname.append ((hcolon _).append (leads_space rest))

private theorem literal_class {c : Char} (hc : c = '-' ∨ c.isDigit = true) :
    isSpace c = false ∧ mark? c = none ∧ c ≠ '"' := by
  rcases hc with rfl | hc
  · decide
  · have hne : ∀ x ∈ [' ', '\t', '\n', '\r', '[', ']', '{', '}', ',', ':', '"'], c ≠ x := by
      rintro x hx rfl
      have hall : ∀ x ∈ [' ', '\t', '\n', '\r', '[', ']', '{', '}', ',', ':', '"'],
          x.isDigit = false := Text.forall_mem_of_all (by decide)
      rw [hall c hx] at hc
      exact Bool.false_ne_true hc
    refine ⟨?_, ?_, hne '"' (by decide)⟩
    · simp [isSpace, hne]
    · rw [mark?]
      all_goals
        rintro rfl
        exact absurd hc (by decide)

private theorem leads_literal {c : Char} {cs rest : List Char} {j : Json} (closable : Bool)
    (stack : List Frame) (hs : isSpace c = false) (hm : mark? c = none) (hq : c ≠ '"')
    (hl : literal? (c :: cs ++ rest) = some (j, cs.length + 1)) :
    Leads (.value closable, stack) (c :: cs) rest (complete j stack) :=
  leads_token (k := .literal j) Token.noConfusion
    (fun offset => tokens_literal hs hm hq rest hl offset) fun _ => rfl

private theorem leads_int (closable : Bool) (stack : List Frame) (n : Int) {rest : List Char}
    (h : Delimited rest) :
    Leads (.value closable, stack) (toString n).toList rest (complete (.int n) stack) := by
  obtain ⟨c, cs, hc, hfirst⟩ := Text.exists_cons_int n
  obtain ⟨hs, hm, hq⟩ := literal_class hfirst
  have hl := literal?_int n h
  rw [hc] at hl ⊢
  exact leads_literal closable stack hs hm hq hl

private theorem leads_lineBreak (indent : Option Nat) (depth : Nat) (rest : List Char) :
    Leads s (lineBreak indent depth) rest s := by
  refine leads_spaces ?_ rest
  intro c hc
  cases indent with
  | none => exact absurd hc List.not_mem_nil
  | some width =>
    rcases List.mem_cons.mp hc with rfl | hc
    · rfl
    · rw [List.eq_of_mem_replicate hc]
      rfl

/-! Whole documents. -/

mutual

/-- A document without fractions, in which no object has a name twice. -/
def IsExact : Json → Prop
  | .null => True
  | .bool _ => True
  | .int _ => True
  | .float _ => False
  | .text _ => True
  | .array items => AllExact items
  | .object fields => (fields.map Prod.fst).Nodup ∧ FieldsExact fields

def AllExact : List Json → Prop
  | [] => True
  | j :: rest => j.IsExact ∧ AllExact rest

def FieldsExact : List (String × Json) → Prop
  | [] => True
  | (_, j) :: rest => j.IsExact ∧ FieldsExact rest

end

private theorem putField_eq_append {name : String} {v : Json} {fields : List (String × Json)}
    (h : name ∉ fields.map Prod.fst) : putField name v fields = fields ++ [(name, v)] := by
  induction fields with
  | nil => rfl
  | cons f fields ih =>
    rw [List.map_cons, List.mem_cons, not_or] at h
    rw [putField, if_neg (Ne.symm h.1), ih h.2, List.cons_append]

private theorem delimited_lineBreak (indent : Option Nat) (depth : Nat) {rest : List Char}
    (h : Delimited rest) : Delimited (lineBreak indent depth ++ rest) := by
  cases indent with
  | none => exact h
  | some width => exact delimited_cons (by decide) _

private theorem delimited_printItems (indent : Option Nat) (depth : Nat) (items : List Json)
    {rest : List Char} (h : Delimited rest) :
    Delimited (printItems indent depth items ++ rest) := by
  cases items with
  | nil => exact h
  | cons j items => cases indent <;> exact delimited_cons (by decide) _

private theorem delimited_printFields (indent : Option Nat) (depth : Nat)
    (fields : List (String × Json)) {rest : List Char} (h : Delimited rest) :
    Delimited (printFields indent depth fields ++ rest) := by
  cases fields with
  | nil => exact h
  | cons f fields => cases indent <;> exact delimited_cons (by decide) _

private theorem leads_separator (indent : Option Nat) (depth : Nat)
    (h : ∀ offset, step s.1 s.2 ⟨offset, .comma⟩ = .ok t) (rest : List Char) :
    Leads s (separator indent depth) rest t := by
  have hcomma : ∀ more, Leads s [','] more t := leads_mark Token.noConfusion rfl rfl h
  cases indent with
  | none => exact (hcomma _).append (leads_space rest)
  | some width => exact (hcomma _).append (leads_lineBreak (some width) depth rest)

private theorem leads_close {c : Char} {k : Token} (indent : Option Nat) (depth : Nat)
    (hk : k ≠ .finish) (hs : isSpace c = false) (hm : mark? c = some k)
    (h : ∀ offset, step s.1 s.2 ⟨offset, k⟩ = .ok t) (rest : List Char) :
    Leads s (lineBreak indent depth ++ [c]) rest t :=
  (leads_lineBreak indent depth _).append (leads_mark hk hs hm h rest)

mutual

private theorem leads_print (indent : Option Nat) (closable : Bool) : ∀ (depth : Nat) (j : Json)
    (stack : List Frame) (rest : List Char), j.IsExact → Delimited rest →
    Leads (.value closable, stack) (print indent depth j) rest (complete j stack)
  | _, .null, stack, _, _, _ => leads_literal closable stack rfl rfl (by decide) rfl
  | _, .bool true, stack, _, _, _ => leads_literal closable stack rfl rfl (by decide) rfl
  | _, .bool false, stack, _, _, _ => leads_literal closable stack rfl rfl (by decide) rfl
  | _, .int n, stack, _, _, hd => leads_int closable stack n hd
  | _, .text v, stack, rest, _, _ => leads_text closable stack v rest
  | depth, .array [], stack, rest, _, _ => by
    have hopen : ∀ more, Leads (.value closable, stack) ['['] more
        (.value true, .array [] :: stack) := leads_mark Token.noConfusion rfl rfl fun _ => rfl
    have hclose : Leads (.value true, .array [] :: stack) [']'] rest
        (complete (.array []) stack) := leads_mark Token.noConfusion rfl rfl (fun _ => rfl) rest
    exact (hopen _).append hclose
  | depth, .array (j :: items), stack, rest, hj, hd => by
    have hopen : ∀ more, Leads (.value closable, stack) ['['] more
        (.value true, .array [] :: stack) := leads_mark Token.noConfusion rfl rfl fun _ => rfl
    have hend : Leads (.comma, .array (items.reverse ++ [j]) :: stack)
        (lineBreak indent depth ++ [']']) rest (complete (.array (j :: items)) stack) :=
      leads_close indent depth Token.noConfusion rfl rfl (fun _ => by simp [step]) rest
    -- a number in the last place must end in front of the layout of the bracket
    have hstop : Delimited (lineBreak indent depth ++ [']'] ++ rest) := by
      rw [List.append_assoc]
      exact delimited_lineBreak indent depth (delimited_cons (by decide) _)
    have hfirst := leads_print indent true (depth + 1) j (.array [] :: stack) _ hj.1
      (delimited_printItems indent (depth + 1) items hstop)
    have hitems := leads_printItems indent (depth + 1) items [j] stack _ hj.2 hstop
    have htext : print indent depth (.array (j :: items)) =
        ['['] ++ lineBreak indent (depth + 1) ++ print indent (depth + 1) j ++
          printItems indent (depth + 1) items ++ (lineBreak indent depth ++ [']']) := by
      simp [print]
    rw [htext]
    exact ((((hopen _).append (leads_lineBreak _ _ _)).append hfirst).append hitems).append hend
  | depth, .object [], stack, rest, _, _ => by
    have hopen : ∀ more, Leads (.value closable, stack) ['{'] more
        (.name true, .object [] :: stack) := leads_mark Token.noConfusion rfl rfl fun _ => rfl
    have hclose : Leads (.name true, .object [] :: stack) ['}'] rest
        (complete (.object []) stack) := leads_mark Token.noConfusion rfl rfl (fun _ => rfl) rest
    exact (hopen _).append hclose
  | depth, .object ((name, j) :: fields), stack, rest, hj, hd => by
    have hopen : ∀ more, Leads (.value closable, stack) ['{'] more
        (.name true, .object [] :: stack) := leads_mark Token.noConfusion rfl rfl fun _ => rfl
    have hend : Leads (.comma, .object ([(name, j)] ++ fields) :: stack)
        (lineBreak indent depth ++ ['}']) rest (complete (.object ((name, j) :: fields)) stack) :=
      leads_close indent depth Token.noConfusion rfl rfl (fun _ => rfl) rest
    have hstop : Delimited (lineBreak indent depth ++ ['}'] ++ rest) := by
      rw [List.append_assoc]
      exact delimited_lineBreak indent depth (delimited_cons (by decide) _)
    have hfirst := leads_print indent false (depth + 1) j (.named [] name :: stack) _ hj.2.1
      (delimited_printFields indent (depth + 1) fields hstop)
    have hfields :=
      leads_printFields indent (depth + 1) fields [(name, j)] stack _ hj.1 hj.2.2 hstop
    have htext : print indent depth (.object ((name, j) :: fields)) =
        ['{'] ++ lineBreak indent (depth + 1) ++ (printText name ++ [':', ' ']) ++
          print indent (depth + 1) j ++ printFields indent (depth + 1) fields ++
          (lineBreak indent depth ++ ['}']) := by
      simp [print]
    rw [htext]
    exact (((((hopen _).append (leads_lineBreak _ _ _)).append
      (leads_name true [] stack name _)).append hfirst).append hfields).append hend

private theorem leads_printItems (indent : Option Nat) : ∀ (depth : Nat) (items done : List Json)
    (stack : List Frame) (rest : List Char), AllExact items → Delimited rest →
    Leads (.comma, .array done :: stack) (printItems indent depth items) rest
      (.comma, .array (items.reverse ++ done) :: stack)
  | _, [], _, _, rest, _, _ => Leads.nil rest
  | depth, j :: items, done, stack, rest, hj, hd => by
    have hcomma : ∀ more, Leads (.comma, .array done :: stack) (separator indent depth) more
        (.value false, .array done :: stack) := leads_separator indent depth fun _ => rfl
    have hfirst := leads_print indent false depth j (.array done :: stack) _ hj.1
      (delimited_printItems indent depth items hd)
    have hitems := leads_printItems indent depth items (j :: done) stack rest hj.2 hd
    have hdone : (j :: items).reverse ++ done = items.reverse ++ j :: done := by simp
    rw [printItems, hdone]
    exact ((hcomma _).append hfirst).append hitems

private theorem leads_printFields (indent : Option Nat) : ∀ (depth : Nat)
    (fields done : List (String × Json)) (stack : List Frame) (rest : List Char),
    ((done ++ fields).map Prod.fst).Nodup → FieldsExact fields → Delimited rest →
    Leads (.comma, .object done :: stack) (printFields indent depth fields) rest
      (.comma, .object (done ++ fields) :: stack)
  | _, [], done, stack, rest, _, _, _ => by
    rw [List.append_nil]
    exact Leads.nil rest
  | depth, (name, j) :: fields, done, stack, rest, hn, hj, hd => by
    have hcomma : ∀ more, Leads (.comma, .object done :: stack) (separator indent depth) more
        (.name false, .object done :: stack) := leads_separator indent depth fun _ => rfl
    have hnew : name ∉ done.map Prod.fst := by
      rw [List.map_append, List.nodup_append] at hn
      intro hm
      exact hn.2.2 name hm name (by simp) rfl
    have hput : complete j (.named done name :: stack) =
        (.comma, .object (done ++ [(name, j)]) :: stack) := by
      rw [complete, putField_eq_append hnew]
    have hfirst := leads_print indent false depth j (.named done name :: stack) _ hj.1
      (delimited_printFields indent depth fields hd)
    have hsplit : done ++ (name, j) :: fields = (done ++ [(name, j)]) ++ fields := by simp
    rw [hput] at hfirst
    rw [hsplit] at hn ⊢
    have hfields := leads_printFields indent depth fields _ stack rest hn hj.2 hd
    have htext : printFields indent depth ((name, j) :: fields) =
        separator indent depth ++ (printText name ++ [':', ' ']) ++ print indent depth j ++
          printFields indent depth fields := by
      simp [printFields]
    rw [htext]
    exact (((hcomma _).append (leads_name false done stack name _)).append hfirst).append hfields

end

/-- No text of a document begins with a byte order mark. -/
theorem print_head (indent : Option Nat) (depth : Nat) (j : Json) (hj : j.IsExact) :
    ∃ c cs, print indent depth j = c :: cs ∧ c ≠ '\uFEFF' := by
  cases j with
  | null => exact ⟨'n', _, rfl, by decide⟩
  | bool b => cases b <;> exact ⟨_, _, rfl, by decide⟩
  | int n =>
    obtain ⟨c, cs, hc, hfirst⟩ := Text.exists_cons_int n
    refine ⟨c, cs, hc, ?_⟩
    rintro rfl
    exact absurd hfirst (by decide)
  | float x => exact hj.elim
  | text v => exact ⟨'"', _, rfl, by decide⟩
  | array items => cases items <;> exact ⟨'[', _, rfl, by decide⟩
  | object fields => cases fields <;> exact ⟨'{', _, rfl, by decide⟩

/-- The text of an exact document reads back as that document, in every layout. -/
theorem parse_render (indent : Option Int) (j : Json) (hj : j.IsExact) :
    parse (j.render indent) = .ok j := by
  obtain ⟨c, cs, hc, hmark⟩ := print_head (indent.map Int.toNat) 0 j hj
  obtain ⟨next, hrun⟩ :=
    leads_print (indent.map Int.toNat) false 0 j [] [] hj delimited_nil 0
  rw [List.append_nil] at hrun
  rw [parse, render, String.toList_ofList]
  rw [hc] at hrun ⊢
  split
  · next heq => exact absurd (List.cons.inj heq).1 hmark
  · exact hrun

end RichText.Json
