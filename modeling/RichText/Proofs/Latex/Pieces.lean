import Mathlib.Data.List.Induction
import RichText.Proofs.Latex.Reading

/-!
Texts made of whole pieces. Such a text is read piece by piece whatever it holds, so that its list
commands, its groups and its control sequences are those of the pieces. Two of them can be joined,
and one without the line breaks at its end is one again.
-/

set_option autoImplicit false
set_option relaxedAutoImplicit false

namespace RichText.Tex

/-- A control word that is no list command. -/
def IsPlainWord (word : String) : Prop :=
  word.toList ≠ [] ∧ word.toList.all Char.isAlpha = true ∧ word ∉ ["begin", "end", "item"]

instance (word : String) : Decidable (IsPlainWord word) :=
  inferInstanceAs (Decidable (_ ∧ _ ∧ _))

/-- `Pieces words d cs es e`: the text `cs` is made of whole pieces, among them the commands `es`
and beside these only words from `words`; it leads from `d` open groups to `e`. -/
inductive Pieces (words : List String) : Nat → List Char → List Command → Nat → Prop
  | nil (d : Nat) : Pieces words d [] [] d
  | char {d e : Nat} {c : Char} {cs : List Char} {es : List Command} :
      c ∉ reserved → Pieces words d cs es e → Pieces words d (c :: cs) es e
  | opening {d e : Nat} {cs : List Char} {es : List Command} :
      Pieces words (d + 1) cs es e → Pieces words d ('{' :: cs) es e
  | closing {d e : Nat} {cs : List Char} {es : List Command} :
      Pieces words d cs es e → Pieces words (d + 1) ('}' :: cs) es e
  | symbol {d e : Nat} {c : Char} {cs : List Char} {es : List Command} :
      c ∈ symbols → Pieces words d cs es e → Pieces words d ('\\' :: c :: cs) es e
  | word {d e : Nat} {word : String} {cs : List Char} {es : List Command} :
      IsPlainWord word → word ∈ words → Pieces words (d + 1) cs es e →
      Pieces words d ('\\' :: (word.toList ++ '{' :: cs)) es e
  | item {e : Nat} {cs : List Char} {es : List Command} :
      Pieces words 0 cs es e →
      Pieces words 0 ('\\' :: ("item".toList ++ ' ' :: cs)) (.item :: es) e
  | opens {e : Nat} {name : String} {cs : List Char} {es : List Command} :
      name.toList.all Char.isAlpha = true → Pieces words 0 cs es e →
      Pieces words 0 (Latex.command "begin" name.toList ++ cs) (.opens name :: es) e
  | closes {e : Nat} {name : String} {cs : List Char} {es : List Command} :
      name.toList.all Char.isAlpha = true → Pieces words 0 cs es e →
      Pieces words 0 (Latex.command "end" name.toList ++ cs) (.closes name :: es) e

variable {words : List String} {d e f : Nat} {a b cs : List Char} {es fs : List Command}

theorem Pieces.append (ha : Pieces words d a es e) (hb : Pieces words e b fs f) :
    Pieces words d (a ++ b) (es ++ fs) f := by
  induction ha with
  | nil d => exact hb
  | char hc _ ih => exact .char hc (ih hb)
  | opening _ ih => exact .opening (ih hb)
  | closing _ ih => exact .closing (ih hb)
  | symbol hc _ ih => exact .symbol hc (ih hb)
  | word hw hm _ ih =>
    rw [List.cons_append, List.append_assoc, List.cons_append]
    exact .word hw hm (ih hb)
  | item _ ih =>
    rw [List.cons_append, List.append_assoc, List.cons_append]
    exact .item (ih hb)
  | opens hn _ ih =>
    rw [List.append_assoc]
    exact .opens hn (ih hb)
  | closes hn _ ih =>
    rw [List.append_assoc]
    exact .closes hn (ih hb)

theorem Pieces.mono {more : List String} (hw : words ⊆ more) (h : Pieces words d cs es e) :
    Pieces more d cs es e := by
  induction h with
  | nil d => exact .nil d
  | char hc _ ih => exact .char hc ih
  | opening _ ih => exact .opening ih
  | closing _ ih => exact .closing ih
  | symbol hc _ ih => exact .symbol hc ih
  | word hp hm _ ih => exact .word hp (hw hm) ih
  | item _ ih => exact .item ih
  | opens hn _ ih => exact .opens hn ih
  | closes hn _ ih => exact .closes hn ih

private theorem append_cons_eq_snoc {α : Type} (xs : List α) {ys zs : List α} {x y : α}
    (hne : x ≠ y) (h : xs ++ x :: ys = zs ++ [y]) : ∃ ws, zs = xs ++ x :: ws ∧ ys = ws ++ [y] := by
  obtain ⟨ws, hz, hy⟩ | ⟨ws, hx, hy⟩ := List.append_eq_append_iff.mp h
  · cases ws with
    | nil =>
      have he : x = y := (List.cons.inj hy).1
      exact absurd he hne
    | cons w ws =>
      obtain ⟨rfl, rfl⟩ := List.cons.inj hy
      exact ⟨ws, hz, rfl⟩
  · cases ws with
    | nil =>
      have he : y = x := (List.cons.inj hy).1
      exact absurd he.symm hne
    | cons w ws =>
      have hl := congrArg List.length (List.cons.inj hy).2
      simp at hl

theorem Pieces.of_snoc (h : Pieces words d (cs ++ ['\n']) es e) : Pieces words d cs es e := by
  -- every other piece ends in a character of its own, so the break belongs to what follows it
  generalize hx : cs ++ ['\n'] = xs at h
  induction h generalizing cs with
  | nil d => simp at hx
  | @char d e c ys es hc h ih =>
    cases cs with
    | nil =>
      obtain ⟨rfl, rfl⟩ := List.cons.inj hx
      cases h
      exact .nil _
    | cons x cs =>
      obtain ⟨rfl, rfl⟩ := List.cons.inj hx
      exact .char hc (ih rfl)
  | @opening d e ys es _ ih =>
    obtain ⟨ws, rfl, rfl⟩ := append_cons_eq_snoc [] (by decide) hx.symm
    exact .opening (ih rfl)
  | @closing d e ys es _ ih =>
    obtain ⟨ws, rfl, rfl⟩ := append_cons_eq_snoc [] (by decide) hx.symm
    exact .closing (ih rfl)
  | @symbol d e c ys es hc _ ih =>
    have hne : c ≠ '\n' := by
      rintro rfl
      exact absurd hc (by decide)
    obtain ⟨ws, rfl, rfl⟩ := append_cons_eq_snoc ['\\'] hne hx.symm
    exact .symbol hc (ih rfl)
  | @word d e name ys es hw hm _ ih =>
    obtain ⟨ws, rfl, rfl⟩ :=
      append_cons_eq_snoc ('\\' :: name.toList) (by decide) hx.symm
    exact .word hw hm (ih rfl)
  | @item e ys es _ ih =>
    obtain ⟨ws, rfl, rfl⟩ :=
      append_cons_eq_snoc ('\\' :: "item".toList) (by decide) hx.symm
    exact .item (ih rfl)
  | @opens e name ys es hn _ ih =>
    have hb : Latex.command "begin" name.toList ++ ys =
        ('\\' :: "begin".toList ++ ['{'] ++ name.toList) ++ '}' :: ys := by
      simp [Latex.command]
    obtain ⟨ws, rfl, rfl⟩ := append_cons_eq_snoc _ (by decide) (hb.symm.trans hx.symm)
    simpa [Latex.command] using Pieces.opens hn (ih rfl)
  | @closes e name ys es hn _ ih =>
    have hb : Latex.command "end" name.toList ++ ys =
        ('\\' :: "end".toList ++ ['{'] ++ name.toList) ++ '}' :: ys := by
      simp [Latex.command]
    obtain ⟨ws, rfl, rfl⟩ := append_cons_eq_snoc _ (by decide) (hb.symm.trans hx.symm)
    simpa [Latex.command] using Pieces.closes hn (ih rfl)

theorem Pieces.dropLineBreaks (h : Pieces words d cs es e) :
    Pieces words d (dropLineBreaks cs) es e := by
  induction cs using List.reverseRecOn with
  | nil => exact h
  | append_singleton cs c ih =>
    by_cases hc : c = '\n'
    · subst hc
      have hd : RichText.dropLineBreaks (cs ++ ['\n']) = RichText.dropLineBreaks cs := by
        simp [RichText.dropLineBreaks]
      rw [hd]
      exact ih h.of_snoc
    · have hd : RichText.dropLineBreaks (cs ++ [c]) = cs ++ [c] := by
        simp [RichText.dropLineBreaks, hc]
      rw [hd]
      exact h

/-- The tokens of a text of whole pieces are those of its pieces. -/
theorem Pieces.reads {cs : List Char} (h : Pieces words d cs es e) :
    Reads words d (tokens cs) es e := by
  induction h with
  | nil d => exact .nil d
  | @char d e c cs es hc _ ih =>
    have hb : c ≠ '\\' := by
      rintro rfl
      exact hc (by decide)
    rw [tokens_char hb]
    exact ih.chars (a := [c]) (by simpa using hc)
  | opening _ ih =>
    rw [tokens_char (by decide)]
    exact Reads.cons_char (by decide) (fun _ => by decide) ih
  | @closing d e cs es _ ih =>
    rw [tokens_char (by decide)]
    exact Reads.cons_char (by decide) (fun hd => absurd hd (Nat.succ_ne_zero d)) ih
  | @symbol d e c cs es hc _ ih =>
    have hs : ∀ x ∈ symbols, x.isAlpha = false ∧
        [x] ∉ ["begin", "end", "item"].map String.toList :=
      Text.forall_mem_of_all (by decide)
    rw [tokens_symbol (hs c hc).1]
    refine ih.cons_plain ?_ (hs c hc).2
    exact List.mem_append_right _ (List.mem_map_of_mem hc)
  | @word d e name cs es hw hm _ ih =>
    rw [tokens_word hw.1 hw.2.1 (by decide), tokens_char (by decide)]
    refine Reads.cons_plain ?_ ?_ (Reads.cons_char (by decide) (fun _ => by decide) ih)
    · exact List.mem_append_left _ (List.mem_append_right _ (List.mem_map_of_mem hm))
    · intro hl
      obtain ⟨w, hw', he⟩ := List.mem_map.mp hl
      exact hw.2.2 (String.toList_inj.mp he ▸ hw')
  | @item e cs es _ ih =>
    rw [tokens_word (by decide) (by decide) (by decide), tokens_char (by decide)]
    have hr : Reads words 0 (.char ' ' :: tokens cs) es e :=
      Reads.cons_char (by decide) (fun _ => by decide) ih
    exact hr.cons_control (command_mem_vocabulary (by decide)) fun _ _ => rfl
  | @opens e name cs es hn _ ih =>
    have hs : Latex.command "begin" name.toList ++ cs =
        '\\' :: "begin".toList ++ ['{'] ++ name.toList ++ ['}'] ++ cs := rfl
    rw [hs, tokens_environment (by decide) (by decide) hn]
    have hbegin : "begin".toList ∈ vocabulary words := command_mem_vocabulary (by decide)
    have hr := (ih.group hn).cons_control hbegin fun _ _ => rfl
    simpa [command?, argument_group hn] using hr
  | @closes e name cs es hn _ ih =>
    have hs : Latex.command "end" name.toList ++ cs =
        '\\' :: "end".toList ++ ['{'] ++ name.toList ++ ['}'] ++ cs := rfl
    rw [hs, tokens_environment (by decide) (by decide) hn]
    have hend : "end".toList ∈ vocabulary words := command_mem_vocabulary (by decide)
    have hr := (ih.group hn).cons_control hend fun _ _ => rfl
    simpa [command?, argument_group hn] using hr

end RichText.Tex
