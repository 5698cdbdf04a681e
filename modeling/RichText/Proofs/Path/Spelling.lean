import RichText.Files

/-!
Spelling paths and reading them back. The pieces of a text hold no slash, so that a path made of
such pieces is found again in its spelling, and so is the place that names alone lead to.
-/

set_option autoImplicit false
set_option relaxedAutoImplicit false

namespace RichText

namespace Path

variable {p : Path} {name s : List Char} {names : List (List Char)}

private theorem slash_not_mem_of_mem_segments (h : name ∈ segments s) : '/' ∉ name := by
  induction s generalizing name with
  | nil =>
    rw [List.mem_singleton.mp h]
    exact List.not_mem_nil
  | cons c s ih =>
    rw [segments] at h
    split at h
    · rcases List.mem_cons.mp h with rfl | h
      · exact List.not_mem_nil
      · exact ih h
    · next hc =>
      split at h
      · rw [List.mem_singleton.mp h]
        simpa using Ne.symm hc
      · next first more he =>
        rcases List.mem_cons.mp h with rfl | h
        · simpa [Ne.symm hc] using ih (he ▸ List.mem_cons_self)
        · exact ih (he ▸ List.mem_cons_of_mem first h)

private theorem segments_slash (s : List Char) : segments ('/' :: s) = [] :: segments s := by
  rw [segments, if_pos rfl]

private theorem segments_of_slash_not_mem (h : '/' ∉ name) : segments name = [name] := by
  induction name with
  | nil => rfl
  | cons c name ih =>
    have hc : c ≠ '/' := (List.ne_of_not_mem_cons h).symm
    rw [segments, if_neg hc, ih (List.not_mem_of_not_mem_cons h)]

private theorem segments_append_slash (h : '/' ∉ name) (s : List Char) :
    segments (name ++ '/' :: s) = name :: segments s := by
  induction name with
  | nil => exact segments_slash s
  | cons c name ih =>
    have hc : c ≠ '/' := (List.ne_of_not_mem_cons h).symm
    rw [List.cons_append, segments, if_neg hc, ih (List.not_mem_of_not_mem_cons h)]

private theorem segments_joined (hne : names ≠ []) (h : ∀ n ∈ names, '/' ∉ n) :
    segments (joined names) = names := by
  induction names using joined.induct with
  | case1 => exact absurd rfl hne
  | case2 s => exact segments_of_slash_not_mem (h s (List.mem_singleton_self s))
  | case3 s t rest ih =>
    rw [joined, segments_append_slash (h s List.mem_cons_self),
      ih (List.cons_ne_nil t rest) fun n hn => h n (List.mem_cons_of_mem s hn)]

theorem isPart_of_getLast? {c : Char} (hlast : name.getLast? = some c) (hc : c ≠ '.') :
    isPart name = true := by
  have hempty : name ≠ [] := by
    rintro rfl
    cases hlast
  have hdot : name ≠ ['.'] := by
    rintro rfl
    exact hc (Option.some.inj hlast).symm
  simp [isPart, hempty, hdot]

/-- Every part of the path can be a part of one that is read. -/
def IsReadable (p : Path) : Prop := ∀ n ∈ p.parts, isPart n ∧ '/' ∉ n

theorem isReadable_ofString (s : String) : (ofString s).IsReadable := by
  intro n hn
  obtain ⟨hmem, hpart⟩ := List.mem_filter.mp hn
  exact ⟨hpart, slash_not_mem_of_mem_segments hmem⟩

private theorem filter_segments_joined (h : ∀ n ∈ names, isPart n ∧ '/' ∉ n) :
    (segments (joined names)).filter isPart = names := by
  by_cases hne : names = []
  · rw [hne]
    rfl
  · rw [segments_joined hne fun n hn => (h n hn).2]
    exact List.filter_eq_self.mpr fun n hn => (h n hn).1

private theorem filter_segments_spelling (r : Root) (s : List Char) :
    (segments (r.spelling ++ s)).filter isPart = (segments s).filter isPart := by
  cases r with
  | relative => rfl
  | absolute =>
    rw [Root.spelling, List.singleton_append, segments_slash]
    exact List.filter_cons_of_neg (by decide)
  | doubled =>
    rw [Root.spelling, List.cons_append, List.singleton_append, segments_slash, segments_slash,
      List.filter_cons_of_neg (by decide), List.filter_cons_of_neg (by decide)]

private theorem rootOf_spelling (r : Root) (h : s.head? ≠ some '/') :
    rootOf (r.spelling ++ s) = r := by
  cases s with
  | nil => cases r <;> rfl
  | cons c s =>
    have hc : c ≠ '/' := fun he => h (congrArg some he)
    cases r <;> simp [rootOf, Root.spelling, hc]

private theorem head?_joined_ne (h : ∀ n ∈ names, isPart n ∧ '/' ∉ n) :
    (joined names).head? ≠ some '/' := by
  cases names with
  | nil => nofun
  | cons n rest =>
    obtain ⟨hpart, hslash⟩ := h n List.mem_cons_self
    cases n with
    | nil => cases hpart
    | cons c n =>
      have hc : c ≠ '/' := fun he => hslash (he ▸ List.mem_cons_self)
      cases rest <;> simpa [joined] using hc

theorem ofChars_spelling (h : p.IsReadable) : ofChars (p.root.spelling ++ joined p.parts) = p := by
  rw [ofChars, rootOf_spelling p.root (head?_joined_ne h), filter_segments_spelling,
    filter_segments_joined h]

/-- A path that can be read is read from its spelling. -/
theorem ofString_toString (h : p.IsReadable) : ofString p.toString = p := by
  have hread := ofChars_spelling h
  rw [ofString, toString, String.toList_ofList, chars]
  split
  · next he =>
    -- a single dot stands for the path that has nothing to spell
    rw [he] at hread
    exact hread
  · exact hread

end Path

/-- Every name on the way down is one that a directory can hold. -/
def Location.IsPlain (l : Location) : Prop := ∀ n ∈ l, Path.isPart n ∧ '/' ∉ n ∧ n ≠ ['.', '.']

theorem Location.ofString_toString {l : Location} (h : l.IsPlain) :
    Path.ofString l.toString = { root := .absolute, parts := l } := by
  have hread : Path.IsReadable { root := .absolute, parts := l } := fun n hn =>
    ⟨(h n hn).1, (h n hn).2.1⟩
  rw [Path.ofString, Location.toString, String.toList_ofList]
  exact Path.ofChars_spelling hread

theorem Files.isPlain_lexical {l : Location} {names : List (List Char)} (hl : l.IsPlain)
    (h : ∀ n ∈ names, '/' ∉ n) : (Files.lexical l names).IsPlain := by
  induction names generalizing l with
  | nil => exact hl
  | cons name names ih =>
    refine ih ?_ fun n hn => h n (List.mem_cons_of_mem name hn)
    dsimp only
    split
    · exact hl
    · next hpart =>
      split
      · exact fun n hn => hl n (List.dropLast_subset l hn)
      · next hup =>
        intro n hn
        rcases List.mem_append.mp hn with hn | hn
        · exact hl n hn
        · rw [List.mem_singleton.mp hn]
          exact ⟨by simpa using hpart, h name List.mem_cons_self, hup⟩

end RichText
