import RichText.Proofs.Latex.Reading

/-!
How TeX numbers the items of an environment. It counts from the ordinal that the option of the
environment states, or else from one; the items of inner environments have a count of their own.
-/

set_option autoImplicit false
set_option relaxedAutoImplicit false

namespace RichText

def consecutive (first : Int) : Nat → List Int
  | 0 => []
  | n + 1 => first :: consecutive (first + 1) n

private theorem consecutive_add (first : Int) (m n : Nat) :
    consecutive first (m + n) = consecutive first m ++ consecutive (first + m) n := by
  induction m generalizing first with
  | zero => simp [consecutive]
  | succ m ih =>
    have hnext : first + 1 + m = first + (m + 1 : Nat) := by omega
    rw [Nat.add_right_comm, consecutive, consecutive, ih, hnext, List.cons_append]

theorem getElem?_consecutive (first : Int) (n k : Nat) :
    (consecutive first n)[k]? = if k < n then some (first + k) else none := by
  induction n generalizing first k with
  | zero => simp [consecutive]
  | succ n ih =>
    cases k with
    | zero => simp [consecutive]
    | succ k =>
      have hnext : first + 1 + k = first + (k + 1 : Nat) := by omega
      rw [consecutive, List.getElem?_cons_succ, ih, hnext]
      simp

namespace Tex

def integer : List Char → Int
  | '-' :: ds => -(Text.digitsValue ds)
  | ds => Text.digitsValue ds

def char? : Token → Option Char
  | .char c => some c
  | .control _ => none

def behindGroup : List Token → List Token
  | [] => []
  | t :: rest => if t = .char '}' then rest else behindGroup rest

/-- The first ordinal that the optional argument in front states, if there is one. -/
def startOption? : List Token → Option Int
  | .char '[' :: rest =>
    let option := (rest.takeWhile (· ≠ .char ']')).filterMap char?
    if "start=".toList.isPrefixOf option then some (integer (option.drop "start=".length)) else none
  | _ => none

/-- The ordinals of the items directly in an environment, up to its end. The items of the
environments inside, of which `depth` are open, have a count of their own. -/
def directOrdinals (depth : Nat) (next : Int) : List Command → List Int
  | [] => []
  | .opens _ :: rest => directOrdinals (depth + 1) next rest
  | .closes _ :: rest =>
    match depth with
    | 0 => []
    | depth + 1 => directOrdinals depth next rest
  | .item :: rest =>
    match depth with
    | 0 => next :: directOrdinals 0 (next + 1) rest
    | depth + 1 => directOrdinals (depth + 1) next rest

def ordinals : List Token → List Int
  | .control name :: rest =>
    if command? name rest = some (.opens "enumerate") then
      directOrdinals 0 ((startOption? (behindGroup rest)).getD 1) (commands rest)
    else []
  | _ => []

/-- Some commands give an ordinal to `n` items where they stand directly in an environment, and to
none in an inner one; they leave as many environments open as they find. -/
structure Counts (n : Nat) (es : List Command) : Prop where
  direct (next : Int) (rest : List Command) : directOrdinals 0 next (es ++ rest) =
    consecutive next n ++ directOrdinals 0 (next + n) rest
  inner (depth : Nat) (next : Int) (rest : List Command) :
    directOrdinals (depth + 1) next (es ++ rest) = directOrdinals (depth + 1) next rest

namespace Counts

variable {m n : Nat} {es fs : List Command}

theorem nil : Counts 0 [] where
  direct next rest := by
    rw [Int.natCast_zero, Int.add_zero]
    rfl
  inner _ _ _ := rfl

theorem append (he : Counts m es) (hf : Counts n fs) : Counts (m + n) (es ++ fs) where
  direct next rest := by
    have hnext : next + m + n = next + (m + n : Nat) := by omega
    rw [List.append_assoc, he.direct, hf.direct, consecutive_add, List.append_assoc, hnext]
  inner depth next rest := by
    rw [List.append_assoc, he.inner, hf.inner]

theorem item : Counts 1 [.item] where
  direct _ _ := rfl
  inner _ _ _ := rfl

theorem environment (name : String) (h : Counts n es) :
    Counts 0 (.opens name :: es ++ [.closes name]) := by
  have hskip : ∀ (depth : Nat) (next : Int) (rest : List Command),
      directOrdinals depth next (.opens name :: es ++ [.closes name] ++ rest) =
        directOrdinals depth next rest := by
    intro depth next rest
    have hopens : directOrdinals depth next (.opens name :: es ++ [.closes name] ++ rest) =
        directOrdinals (depth + 1) next (es ++ .closes name :: rest) := by
      rw [List.append_assoc]
      rfl
    rw [hopens, h.inner]
    rfl
  refine ⟨fun next rest => ?_, fun depth => hskip (depth + 1)⟩
  rw [hskip, Int.natCast_zero, Int.add_zero]
  rfl

end Counts

private theorem integer_int (n : Int) : integer (toString n).toList = n := by
  obtain ⟨d, ds, hd, hdigit⟩ := Text.exists_cons_digits n.natAbs
  have hvalue := Text.digitsValue_digits n.natAbs
  have hminus : d ≠ '-' := by
    rintro rfl
    exact absurd hdigit (by decide)
  rw [Text.toList_int]
  by_cases hn : n < 0
  · rw [if_pos hn, List.singleton_append, integer, hvalue]
    omega
  · rw [if_neg hn, List.nil_append, hd]
    rw [hd] at hvalue
    rw [integer.eq_def]
    split
    · next h => exact absurd (List.cons.inj h).1 hminus
    · rw [hvalue]
      omega

private theorem behindGroup_group {name : List Char} (hn : '}' ∉ name) (ts : List Token) :
    behindGroup (name.map .char ++ .char '}' :: ts) = ts := by
  induction name with
  | nil => rfl
  | cons c name ih =>
    rw [List.mem_cons, not_or] at hn
    have hc : Token.char c ≠ .char '}' := fun he => hn.1 (Token.char.inj he).symm
    rw [List.map_cons, List.cons_append, behindGroup, if_neg hc, ih hn.2]

private theorem filterMap_char? (cs : List Char) : (cs.map Token.char).filterMap char? = cs := by
  rw [List.filterMap_map]
  exact List.filterMap_some

private theorem startOption?_option (n : Int) (ts : List Token) :
    startOption? (.char '[' ::
      (("start=".toList ++ (toString n).toList).map .char ++ .char ']' :: ts)) = some n := by
  have hplain : ∀ c ∈ "start=".toList ++ (toString n).toList, c ≠ ']' := by
    intro c hc
    rcases List.mem_append.mp hc with hc | hc
    · exact Text.forall_mem_of_all (p := (· ≠ ']')) (by decide) c hc
    · rintro rfl
      rcases Text.mem_int hc with h | h
      · exact absurd h (by decide)
      · exact absurd h (by decide)
  have htake : ((("start=".toList ++ (toString n).toList).map Token.char ++
      .char ']' :: ts).takeWhile (· ≠ .char ']')) =
        ("start=".toList ++ (toString n).toList).map .char := by
    rw [List.takeWhile_append_of_pos, List.takeWhile_cons_of_neg (by simp), List.append_nil]
    intro t ht
    obtain ⟨c, hc, rfl⟩ := List.mem_map.mp ht
    simpa using hplain c hc
  have hprefix : "start=".toList.isPrefixOf ("start=".toList ++ (toString n).toList) = true := by
    rw [List.isPrefixOf_iff_prefix]
    exact List.prefix_append _ _
  have hdrop : ("start=".toList ++ (toString n).toList).drop "start=".length =
      (toString n).toList := List.drop_left' rfl
  simp only [startOption?]
  rw [htake, filterMap_char?, if_pos hprefix, hdrop, integer_int]

theorem startOption?_environment (n : Int) (cs : List Char) :
    (startOption? (tokens ((Latex.environment (.ordinal n)).2 ++ '\n' :: cs))).getD 1 = n := by
  by_cases hn : n = 1
  · have hnone : (Latex.environment (.ordinal n)).2 = [] := if_pos hn
    rw [hnone, List.nil_append, tokens_char (by decide), hn]
    rfl
  · have hsome : (Latex.environment (.ordinal n)).2 ++ '\n' :: cs =
        '[' :: (("start=".toList ++ (toString n).toList) ++ ']' :: '\n' :: cs) := by
      have hoption : (Latex.environment (.ordinal n)).2 =
          "[start=".toList ++ (toString n).toList ++ [']'] := if_neg hn
      rw [hoption]
      simp
    have hchars : '\\' ∉ "start=".toList ++ (toString n).toList := by
      intro hc
      rcases List.mem_append.mp hc with hc | hc
      · exact absurd hc (by decide)
      · rcases Text.mem_int hc with h | h
        · exact absurd h (by decide)
        · exact absurd h (by decide)
    rw [hsome, tokens_char (by decide), tokens_chars hchars, tokens_char (by decide),
      startOption?_option]
    rfl

def numberedTokens (ts : List Token) : List Token :=
  .control "begin".toList :: .char '{' :: ("enumerate".toList.map .char ++ .char '}' :: ts)

/-- The items of a numbered environment are counted from the ordinal in its option, else from one.
-/
theorem ordinals_numberedTokens {ts : List Token} {es : List Command} {n : Nat}
    (h : commands (numberedTokens ts) = .opens "enumerate" :: es ++ [.closes "enumerate"])
    (hes : Counts n es) :
    ordinals (numberedTokens ts) = consecutive ((startOption? ts).getD 1) n := by
  obtain ⟨rest, hrest⟩ : ∃ rest, numberedTokens ts = .control "begin".toList :: rest := ⟨_, rfl⟩
  have hgroup : rest = .char '{' :: ("enumerate".toList.map .char ++ .char '}' :: ts) :=
    (List.cons.inj hrest).2.symm
  have hbegin : command? "begin".toList rest = some (.opens "enumerate") := by
    rw [hgroup, command?, if_neg (by decide), if_pos rfl, argument_group (by decide)]
    rfl
  have hbehind : behindGroup rest = ts := by
    rw [hgroup, behindGroup, if_neg (by decide), behindGroup_group (by decide)]
  have hinside : commands rest = es ++ [.closes "enumerate"] := by
    rw [hrest, commands, commandsWithin, hbegin] at h
    exact (List.cons.inj h).2
  rw [hrest, ordinals, if_pos hbegin, hbehind, hinside, hes.direct]
  exact List.append_nil _

end Tex

end RichText
