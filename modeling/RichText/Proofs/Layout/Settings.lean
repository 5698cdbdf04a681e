import Mathlib.Data.List.Basic
import RichText.Layout

/-!
Settings of layouts. Settings state values by name, and the last value of a name counts. A layout
takes settings that name nothing but fields and state no negative width: it has what they state and
keeps the rest. Taking some settings and then others is taking the others over the first.
-/

set_option autoImplicit false
set_option relaxedAutoImplicit false

namespace RichText

def ArgumentError.IsAbout (a : ArgumentError) (name : String) : Prop :=
  ∃ owner, a = .unexpected owner name ∨ a = .repeated owner name

namespace Layout

abbrev Settings : Type := List (String × Int)

def IsField (name : String) : Prop := ∃ f : Field, f.name = name

instance (name : String) : Decidable (IsField name) :=
  decidable_of_iff (Field.indentWidth.name = name ∨ Field.lineWidth.name = name)
    ⟨fun h => h.elim (⟨_, ·⟩) (⟨_, ·⟩), fun ⟨f, hf⟩ => by cases f <;> simp [hf]⟩

namespace Settings

def names (s : Settings) : List String := s.map Prod.fst

def value? : Settings → String → Option Int
  | [], _ => none
  | a :: s, name => (value? s name).or (if name = a.1 then some a.2 else none)

def merge (s t : Settings) : Settings := s.filter (fun a => !t.names.contains a.1) ++ t

def Fits (s : Settings) : Prop := ∀ n ∈ s.names, IsField n

variable {s t : Settings} {name : String}

private theorem value?_cons (a : String × Int) (s : Settings) (name : String) :
    value? (a :: s) name = (value? s name).or (if name = a.1 then some a.2 else none) := rfl

private theorem value?_append (s t : Settings) (name : String) :
    value? (s ++ t) name = (t.value? name).or (s.value? name) := by
  induction s with
  | nil => exact Option.or_none.symm
  | cons a s ih => rw [List.cons_append, value?_cons, value?_cons, ih, Option.or_assoc]

private theorem value?_eq_none_iff : s.value? name = none ↔ name ∉ s.names := by
  induction s with
  | nil => simp [value?, names]
  | cons a s ih =>
    have hnames : names (a :: s) = a.1 :: names s := rfl
    rw [value?_cons, Option.or_eq_none_iff, ih, hnames, List.mem_cons]
    by_cases h : name = a.1
    · simp [h]
    · simp [h]

private theorem value?_filter {p : String × Int → Bool}
    (hp : ∀ v, p (name, v) = true) (s : Settings) : value? (s.filter p) name = s.value? name := by
  induction s with
  | nil => rfl
  | cons a s ih =>
    by_cases ha : p a = true
    · rw [List.filter_cons_of_pos ha, value?_cons, value?_cons, ih]
    · have hne : name ≠ a.1 := by
        intro h
        subst h
        exact ha (hp a.2)
      rw [List.filter_cons_of_neg ha, ih, value?_cons, if_neg hne, Option.or_none]

theorem value?_merge (s t : Settings) (name : String) :
    (s.merge t).value? name = (t.value? name).or (s.value? name) := by
  rw [merge, value?_append]
  cases ht : t.value? name with
  | some v => rfl
  | none =>
    have hkept : ∀ v : Int, (!t.names.contains (name, v).1) = true := by
      intro v
      simpa using value?_eq_none_iff.mp ht
    rw [Option.none_or, Option.none_or, value?_filter hkept]

theorem Fits.merge (hs : s.Fits) (ht : t.Fits) : (s.merge t).Fits := by
  intro n hn
  rw [names, Settings.merge, List.map_append, List.mem_append] at hn
  rcases hn with hn | hn
  · obtain ⟨a, ha, rfl⟩ := List.mem_map.mp hn
    exact hs a.1 (List.mem_map_of_mem (List.mem_filter.mp ha).1)
  · exact ht n hn

end Settings

private theorem stated_eq (f : Field) (default : Nat) (s : Settings) :
    stated f default s = (s.value? f.name).getD default := by
  rw [stated]
  generalize (default : Int) = v
  induction s generalizing v with
  | nil => rfl
  | cons a s ih =>
    rw [List.foldl_cons, ih, Settings.value?_cons]
    cases Settings.value? s f.name with
    | some w => rfl
    | none =>
      by_cases h : a.1 = f.name
      · simp [h]
      · simp [h, Ne.symm h]

private theorem value?_of_stated_neg {f : Field} {default : Nat} {s : Settings}
    (h : stated f default s < 0) : s.value? f.name = some (stated f default s) := by
  rw [stated_eq] at h ⊢
  cases hv : s.value? f.name with
  | some v => rfl
  | none =>
    rw [hv, Option.getD_none] at h
    omega

private theorem any_parameters_iff (name : String) :
    parameters.any (fun p => p.name = name) = true ↔ IsField name := by
  simp only [parameters, List.any_map, List.any_cons, List.any_nil, Function.comp_apply,
    Bool.or_false, Bool.or_eq_true, decide_eq_true_eq]
  constructor
  · rintro (h | h)
    · exact ⟨_, h⟩
    · exact ⟨_, h⟩
  · rintro ⟨f, hf⟩
    cases f with
    | indentWidth => exact Or.inl hf
    | lineWidth => exact Or.inr hf

private theorem isField_of_unfitArgument?_eq_none {owner : String} {names : List String}
    (h : unfitArgument? owner parameters names = none) : ∀ n ∈ names, IsField n := by
  induction names with
  | nil => simp
  | cons name names ih =>
    rw [unfitArgument?] at h
    split at h
    · cases h
    · split at h
      · next hname =>
        exact List.forall_mem_cons.mpr ⟨(any_parameters_iff name).mp hname, ih h⟩
      · cases h

private theorem exists_of_unfitArgument?_eq_some {owner : String} {names : List String}
    {a : ArgumentError} (h : unfitArgument? owner parameters names = some a) :
    ∃ n ∈ names, ¬IsField n ∧ a.IsAbout n := by
  induction names with
  | nil => cases h
  | cons name names ih =>
    rw [unfitArgument?] at h
    split at h
    · next hself =>
      have hnot : ¬IsField name := hself ▸ (by decide : ¬IsField ownParameter)
      exact ⟨name, List.mem_cons_self, hnot, owner, Or.inr (Option.some.inj h).symm⟩
    · split at h
      · obtain ⟨n, hn, hnot, hare⟩ := ih h
        exact ⟨n, List.mem_cons_of_mem _ hn, hnot, hare⟩
      · next hname =>
        have hnot : ¬IsField name := mt (any_parameters_iff name).mpr hname
        exact ⟨name, List.mem_cons_self, hnot, owner, Or.inl (Option.some.inj h).symm⟩

private theorem width_of_nonneg (f : Field) {v : Int} (h : 0 ≤ v) : width f v = .ok v.toNat :=
  if_neg (Int.not_lt.mpr h)

private theorem width_of_neg (f : Field) {v : Int} (h : v < 0) :
    width f v = .error (.negative f v) :=
  if_pos h

/-- A layout takes settings if they name nothing but fields, and has then the widths that they state
and its own where they state none. -/
structure Takes (l : Layout) (s : Settings) (m : Layout) : Prop where
  fits : s.Fits
  family_eq : m.family = l.family
  get_eq (f : Field) : (m.get f : Int) = (s.value? f.name).getD (l.get f)

/-- Settings are refused for a name that is not that of a field, and else for a negative width. -/
inductive Settings.Refused (s : Settings) : Error → Prop
  | name {n : String} {a : ArgumentError} : n ∈ s.names → ¬IsField n → a.IsAbout n →
      s.Refused (.arguments a)
  | width {f : Field} {v : Int} : s.Fits → s.value? f.name = some v → v < 0 →
      s.Refused (.negative f v)

/-- What comes of settings for a layout. -/
inductive Answers (l : Layout) (s : Settings) : Except Error Layout → Prop
  | taken {m : Layout} : l.Takes s m → l.Answers s (.ok m)
  | refused {e : Error} : s.Refused e → l.Answers s (.error e)

variable {l m n : Layout} {s t : Settings} {e : Error} {r : Except Error Layout}

private theorem ext_get (hfamily : m.family = n.family) (hget : ∀ f, m.get f = n.get f) :
    m = n := by
  have hindent : m.indentWidth = n.indentWidth := hget .indentWidth
  have hline : m.lineWidth = n.lineWidth := hget .lineWidth
  cases m
  cases n
  simp_all

theorem Takes.unique (hm : l.Takes s m) (hn : l.Takes s n) : m = n := by
  refine ext_get (hm.family_eq.trans hn.family_eq.symm) ?_
  intro f
  have hget : (m.get f : Int) = n.get f := (hm.get_eq f).trans (hn.get_eq f).symm
  exact Int.ofNat_inj.mp hget

theorem Takes.get_eq_of_not_mem (h : l.Takes s m) {f : Field} (hf : f.name ∉ s.names) :
    m.get f = l.get f := by
  have hget := h.get_eq f
  rw [Settings.value?_eq_none_iff.mpr hf] at hget
  exact Int.ofNat_inj.mp hget

/-- Settings one after the other are the later ones over the earlier. -/
theorem Takes.merge (hs : l.Takes s m) (ht : m.Takes t n) : l.Takes (s.merge t) n where
  fits := hs.fits.merge ht.fits
  family_eq := ht.family_eq.trans hs.family_eq
  get_eq f := by
    rw [ht.get_eq f, Settings.value?_merge, hs.get_eq f]
    cases t.value? f.name with
    | some v => rfl
    | none => rfl

private theorem Settings.Refused.not_takes (h : s.Refused e) : ¬l.Takes s m := by
  intro htakes
  cases h with
  | name hn hnot _ => exact hnot (htakes.fits _ hn)
  | @width f v _ hv hneg =>
    have hget := htakes.get_eq f
    rw [hv, Option.getD_some] at hget
    omega

theorem Settings.exists_refused_iff (s : Settings) : (∃ e, s.Refused e) ↔
    (∃ n ∈ s.names, ¬IsField n) ∨ ∃ (f : Field) (v : Int), s.value? f.name = some v ∧ v < 0 := by
  constructor
  · rintro ⟨e, he⟩
    cases he with
    | name hn hnot _ => exact Or.inl ⟨_, hn, hnot⟩
    | width _ hv hneg => exact Or.inr ⟨_, _, hv, hneg⟩
  · intro h
    by_cases hfits : s.Fits
    · rcases h with ⟨n, hn, hnot⟩ | ⟨f, v, hv, hneg⟩
      · exact absurd (hfits n hn) hnot
      · exact ⟨_, .width hfits hv hneg⟩
    · rw [Settings.Fits] at hfits
      push Not at hfits
      obtain ⟨n, hn, hnot⟩ := hfits
      exact ⟨_, .name hn hnot ⟨"", Or.inl rfl⟩⟩

theorem Answers.ok_iff (h : l.Answers s r) : r = .ok m ↔ l.Takes s m := by
  cases h with
  | taken htakes =>
    constructor
    · intro heq
      exact Except.ok.inj heq ▸ htakes
    · intro hm
      rw [htakes.unique hm]
  | refused hrefused =>
    constructor
    · intro heq
      cases heq
    · intro hm
      exact absurd hm hrefused.not_takes

theorem Answers.refused_of_error (h : l.Answers s r) (hr : r = .error e) : s.Refused e := by
  cases h with
  | taken => cases hr
  | refused hrefused => exact Except.error.inj hr ▸ hrefused

theorem Answers.error_iff (h : l.Answers s r) : (∃ e, r = .error e) ↔ ∃ e, s.Refused e := by
  cases h with
  | taken htakes =>
    constructor
    · rintro ⟨e, he⟩
      cases he
    · rintro ⟨e, he⟩
      exact absurd htakes he.not_takes
  | @refused e hrefused => exact ⟨fun _ => ⟨e, hrefused⟩, fun _ => ⟨e, rfl⟩⟩

private theorem build_of_unfitArgument?_eq_none (l : Layout) {s : Settings}
    (h : unfitArgument? (l.family.title ++ ".__init__") parameters s.names = none) :
    build l.family l.indentWidth l.lineWidth s =
      (width .indentWidth (stated .indentWidth l.indentWidth s)).bind fun indentWidth =>
        (width .lineWidth (stated .lineWidth l.lineWidth s)).bind fun lineWidth =>
          .ok { family := l.family, indentWidth, lineWidth } := by
  have hnames : s.map Prod.fst = s.names := rfl
  rw [build, checkArguments, hnames, h]
  rfl

private theorem answers_build (l : Layout) (s : Settings) :
    l.Answers s (build l.family l.indentWidth l.lineWidth s) := by
  cases hunfit : unfitArgument? (l.family.title ++ ".__init__") parameters s.names with
  | some a =>
    obtain ⟨n, hn, hnot, hare⟩ := exists_of_unfitArgument?_eq_some hunfit
    have hnames : s.map Prod.fst = s.names := rfl
    rw [build, checkArguments, hnames, hunfit]
    exact .refused (.name hn hnot hare)
  | none =>
    have hfits : s.Fits := isField_of_unfitArgument?_eq_none hunfit
    rw [build_of_unfitArgument?_eq_none l hunfit]
    by_cases hindent : stated .indentWidth l.indentWidth s < 0
    · rw [width_of_neg _ hindent]
      exact .refused (.width hfits (value?_of_stated_neg hindent) hindent)
    · have hindent := Int.not_lt.mp hindent
      rw [width_of_nonneg _ hindent]
      by_cases hline : stated .lineWidth l.lineWidth s < 0
      · rw [width_of_neg _ hline]
        exact .refused (.width hfits (value?_of_stated_neg hline) hline)
      · have hline := Int.not_lt.mp hline
        rw [width_of_nonneg _ hline]
        refine .taken ⟨hfits, rfl, ?_⟩
        intro f
        cases f with
        | indentWidth => exact (Int.toNat_of_nonneg hindent).trans (stated_eq _ _ s)
        | lineWidth => exact (Int.toNat_of_nonneg hline).trans (stated_eq _ _ s)

theorem answers_make (family : Family) (s : Settings) : Answers { family } s (make family s) :=
  answers_build { family } s

theorem answers_update (l : Layout) (s : Settings) : l.Answers s (l.update s) := by
  have hown : ∀ n ∈ ownNames, ¬IsField n.2 := by decide
  rw [update]
  split
  · next owner name hfind =>
    have hmem : (owner, name) ∈ ownNames := List.mem_of_find?_eq_some hfind
    have hcontains := List.find?_some hfind
    have hname : name ∈ s.names := List.contains_iff_mem.mp hcontains
    exact .refused (.name hname (hown _ hmem) ⟨owner, Or.inr rfl⟩)
  · exact answers_build l s

end Layout

end RichText
