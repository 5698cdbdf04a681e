import Mathlib.Tactic.SplitIfs
import RichText.Json.Printer
import RichText.Json.Token

/-!
Texts in JSON read back. A reader takes the written form of one character after the other, and the
closing quote ends the text; so a text is read as the characters it was written from.
-/

set_option autoImplicit false
set_option relaxedAutoImplicit false

namespace RichText.Json

def withChar (c : Char) (size : Nat) (r : Except Fault (List Char × Nat)) :
    Except Fault (List Char × Nat) :=
  r.map fun t => (c :: t.1, t.2 + size)

private theorem bind_eq_withChar (c : Char) (size : Nat) (r : Except Fault (List Char × Nat)) :
    (do let (t, n) ← r; .ok (c :: t, n + size)) = withChar c size r := by
  cases r <;> rfl

private theorem readText_plain {c : Char} (hq : c ≠ '"') (hb : c ≠ '\\') (hc : ¬c.toNat < 32)
    (start offset : Nat) (rest : List Char) :
    readText start offset (c :: rest) = withChar c 1 (readText start (offset + 1) rest) := by
  rw [readText, if_neg hc, bind_eq_withChar]
  -- the other patterns begin with a quote or a backslash
  all_goals
    intros
    contradiction

private theorem readText_escape {c e : Char} (hu : c ≠ 'u') (he : simpleEscape? c = some e)
    (start offset : Nat) (rest : List Char) :
    readText start offset ('\\' :: c :: rest) =
      withChar e 2 (readText start (offset + 2) rest) := by
  rw [readText, he]
  · exact bind_eq_withChar e 2 _
  all_goals
    intros
    contradiction

private theorem pairChar?_eq_none {high : Nat} (h : high < 0xD800) (low : Nat) :
    Text.pairChar? high low = none := by
  have hn : ¬0xD800 ≤ high := by omega
  simp [Text.pairChar?, hn]

private theorem readText_unit {a b c d : Char} {n : Nat}
    (hv : Text.hexValues? [a, b, c, d] = some n)
    (hn : n < 0xD800) (start offset : Nat) {rest : List Char} (hr : rest ≠ []) :
    readText start offset ('\\' :: 'u' :: a :: b :: c :: d :: rest) =
      withChar (Text.unitChar n) 6 (readText start (offset + 6) rest) := by
  obtain ⟨x, rest, rfl⟩ := List.exists_cons_of_ne_nil hr
  rw [readText.eq_def]
  split
  · next heq => cases heq
  · next heq => cases heq
  · next heq => cases heq
  · next heq =>
    cases heq
    rw [hv]
    split
    · next heq => cases heq
    · next heq _ =>
      cases heq
      rw [if_neg (by simp; omega)]
      exact bind_eq_withChar _ 6 _
    · next heq _ =>
      cases heq
      rw [pairChar?_eq_none hn]
      exact bind_eq_withChar _ 6 _
  · next heq =>
    cases heq
    rw [hv]
    exact bind_eq_withChar _ 6 _
  · next hno heq =>
    cases heq
    exact absurd rfl (hno a b c d x rest)
  · next hno heq =>
    cases heq
    exact absurd rfl hno
  · next hno heq =>
    cases heq
    exact absurd rfl (hno _ _ rfl)

private theorem hexValues?_hexDigits {n : Nat} (hn : n < 32) :
    Text.hexValues? (Text.hexDigits 4 n) = some n := by
  have hall : ∀ k < 32, Text.hexValues? (Text.hexDigits 4 k) = some k := by decide
  exact hall n hn

private theorem unitChar_toNat {c : Char} (hc : c.toNat < 32) : Text.unitChar c.toNat = c := by
  have hn : ¬(0xD800 ≤ c.toNat && c.toNat ≤ 0xDFFF) = true := by
    simp
    omega
  rw [Text.unitChar, if_neg hn, Char.ofNat_toNat]

private theorem readText_escapeChar (c : Char) (start offset : Nat) {rest : List Char}
    (hr : rest ≠ []) : readText start offset (escapeChar c ++ rest) =
      withChar c (escapeChar c).length
        (readText start (offset + (escapeChar c).length) rest) := by
  unfold escapeChar
  split_ifs with hquote hslash hbreak hreturn htab hback hfeed hcontrol
  · subst hquote
    exact readText_escape (by decide) rfl start offset rest
  · subst hslash
    exact readText_escape (by decide) rfl start offset rest
  · subst hbreak
    exact readText_escape (by decide) rfl start offset rest
  · subst hreturn
    exact readText_escape (by decide) rfl start offset rest
  · subst htab
    exact readText_escape (by decide) rfl start offset rest
  · subst hback
    exact readText_escape (by decide) rfl start offset rest
  · subst hfeed
    exact readText_escape (by decide) rfl start offset rest
  · have hu := readText_unit (hexValues?_hexDigits hcontrol) (by omega) start offset hr
    rw [unitChar_toNat hcontrol] at hu
    exact hu
  · exact readText_plain hquote hslash hcontrol start offset rest

theorem readText_flatMap (cs : List Char) (start offset : Nat) (rest : List Char) :
    readText start offset (cs.flatMap escapeChar ++ '"' :: rest) =
      .ok (cs, (cs.flatMap escapeChar).length + 1) := by
  induction cs generalizing offset with
  | nil => simp [readText]
  | cons c cs ih =>
    rw [List.flatMap_cons, List.append_assoc, readText_escapeChar c start offset (by simp), ih]
    simp only [withChar, Except.map, List.length_append]
    congr 2
    omega

end RichText.Json
