import RichText.Json.Token
import RichText.Proofs.Text.Characters

/-!
Integers in JSON read back. The reader takes the longest number, so the text of an integer is read
whole where nothing behind it could go on with it.
-/

set_option autoImplicit false
set_option relaxedAutoImplicit false

namespace RichText.Json

/-- Nothing that could go on with a number: the end of the text, or a comma, a closing bracket or a
line break. -/
def Delimited (cs : List Char) : Prop := ∀ c ∈ cs.head?, c ∈ [',', ']', '}', '\n']

theorem delimited_nil : Delimited [] := by
  intro c hc
  cases hc

theorem delimited_cons {c : Char} (hc : c ∈ [',', ']', '}', '\n']) (cs : List Char) :
    Delimited (c :: cs) := by
  intro x hx
  obtain rfl := Option.some.inj hx
  exact hc

private theorem Delimited.digits_stop {cs : List Char} (h : Delimited cs) :
    cs.takeWhile Char.isDigit = [] := by
  cases cs with
  | nil => rfl
  | cons c cs =>
    have hall : ∀ x ∈ [',', ']', '}', '\n'], x.isDigit = false :=
      Text.forall_mem_of_all (by decide)
    have hd : c.isDigit = false := hall c (h c rfl)
    rw [List.takeWhile_cons_of_neg (by simp [hd])]

private theorem Delimited.places_eq_nil {cs : List Char} (h : Delimited cs) : places cs = [] := by
  cases cs with
  | nil => rfl
  | cons c cs =>
    have hc : c ≠ '.' := by
      rintro rfl
      exact absurd (h '.' rfl) (by decide)
    rw [places.eq_def]
    split
    · next heq => exact absurd (List.cons.inj heq).1 hc
    · rfl

private theorem Delimited.exponent?_eq_none {cs : List Char} (h : Delimited cs) :
    Text.exponent? cs = none := by
  cases cs with
  | nil => rfl
  | cons c cs =>
    have hall : ∀ x ∈ [',', ']', '}', '\n'], (x = 'e' || x = 'E') = false :=
      Text.forall_mem_of_all (by decide)
    rw [Text.exponent?, hall c (h c rfl)]
    rfl

private theorem head_digits_ne_zero {n : Nat} (hn : 0 < n) (c : Char) (cs : List Char)
    (h : Nat.toDigits 10 n = c :: cs) : c ≠ '0' := by
  induction n using Nat.strongRecOn generalizing cs with
  | ind n ih =>
    rw [Nat.toDigits_eq_if (by decide)] at h
    split at h
    · next hlt =>
      obtain ⟨rfl, -⟩ := List.cons.inj h
      have hall : ∀ k < 10, 0 < k → Nat.digitChar k ≠ '0' := by decide
      exact hall n hlt hn
    · next hge =>
      obtain ⟨d, ds, hd, -⟩ := Text.exists_cons_digits (n / 10)
      rw [hd, List.cons_append] at h
      obtain ⟨rfl, -⟩ := List.cons.inj h
      exact ih (n / 10) (by omega) (by omega) ds hd

private theorem wholePart_digits (n : Nat) {rest : List Char} (h : Delimited rest) :
    wholePart (Nat.toDigits 10 n ++ rest) = Nat.toDigits 10 n := by
  rcases Nat.eq_zero_or_pos n with rfl | hn
  · rfl
  · obtain ⟨d, ds, hd, -⟩ := Text.exists_cons_digits n
    have hz : d ≠ '0' := head_digits_ne_zero hn d ds hd
    have hall : ∀ c ∈ Nat.toDigits 10 n, c.isDigit = true := fun c hc =>
      Text.isDigit_of_mem_digits hc
    have ht : (Nat.toDigits 10 n ++ rest).takeWhile Char.isDigit =
        Nat.toDigits 10 n ++ rest.takeWhile Char.isDigit := List.takeWhile_append_of_pos hall
    rw [hd] at ht ⊢
    rw [List.cons_append, wholePart, if_neg hz, ← List.cons_append, ht, h.digits_stop,
      List.append_nil]

private theorem number?_int (n : Int) {rest : List Char} (h : Delimited rest) :
    number? ((toString n).toList ++ rest) = some (.int n, (toString n).toList.length) := by
  obtain ⟨d, ds, hd, hdigit⟩ := Text.exists_cons_digits n.natAbs
  have hminus : d ≠ '-' := by
    rintro rfl
    exact absurd hdigit (by decide)
  have hwhole := wholePart_digits n.natAbs h
  have hvalue := Text.digitsValue_digits n.natAbs
  rw [hd] at hwhole hvalue
  rw [List.cons_append] at hwhole
  rw [Text.toList_int, hd]
  generalize hk : n.natAbs = k at hvalue
  by_cases hn : n < 0
  · have hneg : -(k : Int) = n := by omega
    simp [number?, hn, hwhole, hvalue, h.places_eq_nil, h.exponent?_eq_none, hneg, Nat.add_comm]
  · have hpos : (k : Int) = n := by omega
    simp [number?, hn, hwhole, hvalue, h.places_eq_nil, h.exponent?_eq_none, hpos, hminus]

theorem literal?_int (n : Int) {rest : List Char} (h : Delimited rest) :
    literal? ((toString n).toList ++ rest) = some (.int n, (toString n).toList.length) := by
  obtain ⟨d, ds, hd, hdigit⟩ := Text.exists_cons_digits n.natAbs
  have hfirst : 'n' ≠ d ∧ 't' ≠ d ∧ 'f' ≠ d ∧ 'N' ≠ d ∧ 'I' ≠ d ∧ '-' ≠ d := by
    refine ⟨?_, ?_, ?_, ?_, ?_, ?_⟩ <;>
      (rintro rfl; exact absurd hdigit (by decide))
  have hno : words.find? (fun w => w.1.isPrefixOf ((toString n).toList ++ rest)) = none := by
    rw [Text.toList_int, hd]
    by_cases hn : n < 0
    · simp [words, List.isPrefixOf, hn, hfirst]
    · simp [words, List.isPrefixOf, hn, hfirst]
  rw [literal?, hno]
  exact number?_int n h

end RichText.Json
