import RichText.Text.Digits

/-!
Characters of a text: statements about each of some listed ones, and those of an integer, which are
a minus sign where it is negative and the decimal digits of its absolute value.
-/

set_option autoImplicit false
set_option relaxedAutoImplicit false

namespace RichText.Text

/-- A statement about each of some listed characters is decided one by one. Deciding it as it stands
may go through every character there is. -/
theorem forall_mem_of_all {α : Type} {p : α → Prop} [DecidablePred p] {xs : List α}
    (h : (xs.all fun x => decide (p x)) = true) : ∀ x ∈ xs, p x := by
  intro x hx
  exact of_decide_eq_true (List.all_eq_true.mp h x hx)

theorem toList_int (n : Int) :
    (toString n).toList = (if n < 0 then ['-'] else []) ++ Nat.toDigits 10 n.natAbs := by
  have hs : toString n = n.repr := rfl
  rw [hs, Int.repr_eq_if]
  by_cases hn : 0 ≤ n
  · have ha : n.toNat = n.natAbs := by omega
    simp [hn, Int.not_lt.mpr hn, ha]
  · have ha : (-n).toNat = n.natAbs := by omega
    simp [hn, Int.not_le.mp hn, ha]

theorem isDigit_of_mem_digits {n : Nat} {c : Char} (hc : c ∈ Nat.toDigits 10 n) :
    c.isDigit = true :=
  Nat.isDigit_of_mem_toDigits (by decide) (by decide) hc

theorem exists_cons_digits (n : Nat) :
    ∃ d ds, Nat.toDigits 10 n = d :: ds ∧ d.isDigit = true := by
  obtain ⟨d, ds, hd⟩ := List.exists_cons_of_ne_nil (Nat.toDigits_ne_nil (n := n) (b := 10))
  exact ⟨d, ds, hd, isDigit_of_mem_digits (hd ▸ List.mem_cons_self)⟩

theorem digitsValue_digits (n : Nat) : digitsValue (Nat.toDigits 10 n) = n := by
  have h := Nat.ofDigitChars_ten_toDigits (n := n)
  rw [Nat.ofDigitChars_eq_foldl] at h
  exact h

theorem mem_int {n : Int} {c : Char} (hc : c ∈ (toString n).toList) :
    c = '-' ∨ c.isDigit = true := by
  rw [toList_int, List.mem_append] at hc
  rcases hc with hc | hc
  · left
    split at hc
    · exact List.mem_singleton.mp hc
    · exact absurd hc List.not_mem_nil
  · exact Or.inr (isDigit_of_mem_digits hc)

theorem exists_cons_int (n : Int) :
    ∃ c cs, (toString n).toList = c :: cs ∧ (c = '-' ∨ c.isDigit = true) := by
  obtain ⟨d, ds, hd, -⟩ := exists_cons_digits n.natAbs
  have hne : (toString n).toList ≠ [] := by
    rw [toList_int, hd]
    simp
  obtain ⟨c, cs, hc⟩ := List.exists_cons_of_ne_nil hne
  exact ⟨c, cs, hc, mem_int (hc ▸ List.mem_cons_self)⟩

end RichText.Text
