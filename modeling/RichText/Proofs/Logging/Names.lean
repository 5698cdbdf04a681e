import Mathlib.Data.List.TakeWhile
import RichText.Logging
import RichText.Proofs.Text.Characters

/-!
Names in the log. The records of every logger below that of the library are the records of the
library, whatever loggers are in use between them; and the name of a level stands for it in any
case.
-/

set_option autoImplicit false
set_option relaxedAutoImplicit false

namespace RichText

namespace Logging

/-- The names of the loggers of the library: its own, and parts without dots below it. -/
inductive IsWithin : List Char → Prop
  | library : IsWithin Logger.library.name.toList
  | child {name part : List Char} : IsWithin name → part ≠ [] → '.' ∉ part →
      IsWithin (name ++ '.' :: part)

variable {name part : List Char}

private theorem IsWithin.ne_nil (h : IsWithin name) : name ≠ [] := by
  cases h with
  | library => decide
  | child => simp

private theorem cutName?_append (hname : name ≠ []) (hpart : '.' ∉ part) :
    cutName? (name ++ '.' :: part) = some name := by
  have hreverse : (name ++ '.' :: part).reverse = part.reverse ++ '.' :: name.reverse := by simp
  have hdrop : (part.reverse ++ '.' :: name.reverse).dropWhile (· ≠ '.') = '.' :: name.reverse := by
    rw [List.dropWhile_append_of_pos]
    · simp
    · intro c hc
      have hdot : c ≠ '.' := by
        rintro rfl
        exact hpart (List.mem_reverse.mp hc)
      simpa using hdot
  rw [cutName?, hreverse, hdrop]
  cases hr : name.reverse with
  | nil => exact absurd (List.reverse_eq_nil_iff.mp hr) hname
  | cons c rest =>
    have hback : (c :: rest).reverse = name := by rw [← hr, List.reverse_reverse]
    exact congrArg some hback

private theorem cutName?_eq_none (h : '.' ∉ name) : cutName? name = none := by
  have hdrop : name.reverse.dropWhile (· ≠ '.') = [] := by
    rw [List.dropWhile_eq_nil_iff]
    intro c hc
    have hdot : c ≠ '.' := by
      rintro rfl
      exact h (List.mem_reverse.mp hc)
    simpa using hdot
  rw [cutName?, hdrop]

/-- The name above and those above it. The last part may be empty here: what is left of a name once
its last character is taken away. -/
theorem namesAbove_append (hname : name ≠ []) (hpart : '.' ∉ part) (steps : Nat) :
    namesAbove (name ++ '.' :: part) (steps + 1) = name :: namesAbove name.dropLast steps := by
  rw [namesAbove, cutName?_append hname hpart]

private theorem namesAbove_dropLast_library (steps : Nat) :
    namesAbove Logger.library.name.toList.dropLast steps = [] := by
  cases steps with
  | zero => rfl
  | succ steps =>
    have hcut : cutName? Logger.library.name.toList.dropLast = none :=
      cutName?_eq_none (by decide)
    rw [namesAbove, hcut]

private theorem dropLast_append (hpart : part ≠ []) :
    (name ++ '.' :: part).dropLast = name ++ '.' :: part.dropLast := by
  rw [List.dropLast_append_of_ne_nil (by simp), List.dropLast_cons_of_ne_nil hpart]

private theorem dot_not_mem_dropLast (hpart : '.' ∉ part) : '.' ∉ part.dropLast := fun h =>
  hpart (List.dropLast_subset _ h)

private theorem IsWithin.of_mem_namesAbove (h : IsWithin name) (hpart : '.' ∉ part) {steps : Nat}
    {above : List Char} (hmem : above ∈ namesAbove (name ++ '.' :: part) steps) :
    IsWithin above ∧ above.length ≤ name.length := by
  induction h generalizing part steps with
  | library =>
    cases steps with
    | zero => cases hmem
    | succ steps =>
      rw [namesAbove_append IsWithin.library.ne_nil hpart, namesAbove_dropLast_library,
        List.mem_singleton] at hmem
      rw [hmem]
      exact ⟨.library, Nat.le_refl _⟩
  | @child name last h hne hlast ih =>
    cases steps with
    | zero => cases hmem
    | succ steps =>
      rw [namesAbove_append (IsWithin.child h hne hlast).ne_nil hpart, dropLast_append hne] at hmem
      rcases List.mem_cons.mp hmem with rfl | hmem
      · exact ⟨.child h hne hlast, Nat.le_refl _⟩
      · obtain ⟨habove, hlength⟩ := ih (dot_not_mem_dropLast hlast) hmem
        refine ⟨habove, Nat.le_trans hlength ?_⟩
        rw [List.length_append]
        exact Nat.le_add_right _ _

private theorem IsWithin.library_mem_namesAbove (h : IsWithin name) (hpart : '.' ∉ part)
    {steps : Nat} (hsteps : name.length < steps) :
    Logger.library.name.toList ∈ namesAbove (name ++ '.' :: part) steps := by
  induction h generalizing part steps with
  | library =>
    obtain ⟨steps, rfl⟩ := Nat.exists_eq_succ_of_ne_zero (Nat.ne_of_gt (Nat.zero_lt_of_lt hsteps))
    rw [namesAbove_append IsWithin.library.ne_nil hpart]
    exact List.mem_cons_self
  | @child name last h hne hlast ih =>
    obtain ⟨steps, rfl⟩ := Nat.exists_eq_succ_of_ne_zero (Nat.ne_of_gt (Nat.zero_lt_of_lt hsteps))
    rw [namesAbove_append (IsWithin.child h hne hlast).ne_nil hpart, dropLast_append hne]
    refine List.mem_cons_of_mem _ (ih (dot_not_mem_dropLast hlast) ?_)
    simp only [List.length_append, List.length_cons] at hsteps
    omega

theorem IsWithin.belongs (h : IsWithin name) (l : Logging) {steps : Nat}
    (hsteps : name.length < steps) : l.belongs name steps = true := by
  induction steps generalizing name with
  | zero => exact absurd hsteps (Nat.not_lt_zero _)
  | succ steps ih =>
    cases h with
    | library => simp [Logging.belongs]
    | @child name part h hne hpart =>
      have hlonger : name.length < (name ++ '.' :: part).length := by simp
      -- the library itself is above, so that some name is found, and that name is shorter
      cases hfind : (namesAbove (name ++ '.' :: part) (name ++ '.' :: part).length).find?
          (fun n => n = Logger.library.name.toList || l.used.contains n) with
      | none =>
        have hlibrary := h.library_mem_namesAbove hpart hlonger
        exact absurd (List.find?_eq_none.mp hfind _ hlibrary) (by simp)
      | some above =>
        obtain ⟨habove, hlength⟩ := h.of_mem_namesAbove hpart (List.mem_of_find?_eq_some hfind)
        have hbelongs := ih habove (by omega)
        simp only [Logging.belongs, hfind, hbelongs, Bool.or_true]

theorem IsWithin.isOwn {r : Record} (h : IsWithin r.logger.toList) (l : Logging) :
    l.isOwn r = true := h.belongs l (Nat.lt_succ_self _)

end Logging

namespace Level

def common : List (String × Int) :=
  [("DEBUG", debug), ("INFO", info), ("WARNING", warning), ("ERROR", error), ("CRITICAL", critical)]

private theorem capitals_of_toUpper {c d : Char} (hd : d.isUpper = true) (h : c.toUpper = d) :
    capitals c = [d] := by
  have hplain : ∀ x ∈ ['ı', 'ſ', '\ufb05', '\ufb06'], x.toUpper.isUpper = false :=
    Text.forall_mem_of_all (by decide)
  have hother : c ∉ ['ı', 'ſ', '\ufb05', '\ufb06'] := by
    intro hc
    have hlower := hplain c hc
    rw [h, hd] at hlower
    cases hlower
  simp only [List.mem_cons, List.not_mem_nil, or_false, not_or] at hother
  obtain ⟨hi, hs, hlong, hst⟩ := hother
  simp [capitals, hi, hs, hlong, hst, h]

private theorem flatMap_capitals {cs name : List Char} (hname : name.all Char.isUpper = true)
    (h : cs.map Char.toUpper = name) : cs.flatMap capitals = name := by
  induction cs generalizing name with
  | nil => exact h
  | cons c cs ih =>
    subst h
    rw [List.map_cons, List.all_cons, Bool.and_eq_true] at hname
    rw [List.flatMap_cons, capitals_of_toUpper hname.1 rfl, ih hname.2 rfl]
    rfl

theorem ofName_common {name : String} {level : Int} (h : (name, level) ∈ common) {s : String}
    (hs : s.toList.map Char.toUpper = name.toList) : ofName s = .ok level ∧ level ≠ 0 := by
  have hupper : ∀ n ∈ common, n.1.toList.all Char.isUpper = true := by decide
  have hfound : ∀ n ∈ common, n.1 ≠ "BASIC_FORMAT" ∧ n.1 ≠ "_STYLES" ∧
      (names.find? fun x => x.1 = n.1).map (·.2) = some n.2 ∧ n.2 ≠ 0 := by decide
  obtain ⟨hformat, hstyles, hfind, hzero⟩ := hfound _ h
  obtain ⟨n, hn, hlevel⟩ := Option.map_eq_some_iff.mp hfind
  have hcapitals : String.ofList (s.toList.flatMap capitals) = name := by
    rw [flatMap_capitals (hupper _ h) hs, String.ofList_toList]
  refine ⟨?_, hzero⟩
  simp only [ofName, hcapitals, if_neg hformat, if_neg hstyles, hn]
  exact congrArg Except.ok hlevel

end Level

end RichText
