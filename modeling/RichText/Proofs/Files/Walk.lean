import Mathlib.Data.List.Basic
import RichText.Proofs.Path.Spelling

/-!
Laws of walks through files. Putting an entry changes one place, a walk that leads somewhere goes
by directories and ends where its names alone lead, and making the directories of a walk changes
nothing but places on its way where nothing was.
-/

set_option autoImplicit false
set_option relaxedAutoImplicit false

namespace RichText.Files

variable {f g h : Files} {k l m : Location} {name : List Char} {names : List (List Char)}
  {e : SystemError}

private theorem find?_putEntry (l : Location) (e : Entry) (k : Location)
    (es : List (Location × Entry)) : ((putEntry l e es).find? fun x => x.1 = k).map (·.2) =
      if k = l then some e else (es.find? fun x => x.1 = k).map (·.2) := by
  induction es with
  | nil =>
    by_cases hk : l = k
    · simp [putEntry, hk]
    · simp [putEntry, hk, Ne.symm hk]
  | cons x es ih =>
    obtain ⟨j, old⟩ := x
    rw [putEntry]
    by_cases hj : j = l
    · subst hj
      by_cases hk : j = k
      · simp [hk]
      · simp [hk, Ne.symm hk]
    · by_cases hk : j = k
      · subst hk
        simp [hj]
      · rw [if_neg hj, List.find?_cons_of_neg (by simpa using hk),
          List.find?_cons_of_neg (by simpa using hk)]
        exact ih

theorem entry?_put (f : Files) (hl : l ≠ []) (e : Entry) (k : Location) :
    entry? (f.put l e) k = if k = l then some e else f.entry? k := by
  by_cases hk : k = []
  · subst hk
    simp [Ne.symm hl, Files.entry?]
  · simp only [put, Files.entry?, if_neg hk]
    exact find?_putEntry l e k f.entries

private theorem putEntry_eq_self {e : Entry} {es : List (Location × Entry)}
    (h : (es.find? fun x => x.1 = l).map (·.2) = some e) : putEntry l e es = es := by
  induction es with
  | nil => cases h
  | cons x es ih =>
    obtain ⟨j, old⟩ := x
    rw [putEntry]
    by_cases hj : j = l
    · rw [List.find?_cons_of_pos (by simpa using hj)] at h
      rw [if_pos hj, ← Option.some.inj h]
    · rw [List.find?_cons_of_neg (by simpa using hj)] at h
      rw [if_neg hj, ih h]

theorem put_eq_self {e : Entry} (hl : l ≠ []) (h : f.entry? l = some e) : f.put l e = f := by
  unfold entry? at h
  rw [if_neg hl] at h
  rw [put, putEntry_eq_self h]

theorem ne_nil_of_entry?_ne (h : f.entry? l ≠ some .directory) : l ≠ [] := by
  rintro rfl
  exact h rfl

theorem write_eq_ok {content : ByteArray} (h : f.write l content = .ok g) :
    f.entry? l ≠ some .directory ∧ g = f.put l (.file content) := by
  rw [write] at h
  split at h
  · cases h
  · next hd => exact ⟨hd, (Except.ok.inj h).symm⟩

private theorem step_eq_ok (h : f.step l name = .ok m) :
    f.entry? l = some .directory ∧ m = lexical l [name] := by
  rw [step] at h
  split at h
  · cases h
  · cases h
  · next hd =>
    refine ⟨hd, ?_⟩
    simp only [lexical, List.foldl_cons, List.foldl_nil]
    by_cases hp : (!Path.isPart name) = true
    · rw [if_pos hp] at h ⊢
      exact (Except.ok.inj h).symm
    · rw [if_neg hp] at h ⊢
      by_cases hu : name = ['.', '.']
      · rw [if_pos hu] at h ⊢
        exact (Except.ok.inj h).symm
      · rw [if_neg hu] at h ⊢
        split at h
        · cases h
        · exact (Except.ok.inj h).symm

private theorem step_eq_error (h : f.step l name = .error e) :
    e = .missing ∨ e = .notDirectory ∨ e = .nameTooLong := by
  rw [step] at h
  split at h
  · exact .inl (Except.error.inj h).symm
  · exact .inr (.inl (Except.error.inj h).symm)
  · split at h
    · cases h
    · split at h
      · cases h
      · split at h
        · exact .inr (.inr (Except.error.inj h).symm)
        · cases h

private theorem step_congr (hf : f.entry? l = some .directory) (hg : g.entry? l = some .directory)
    (name : List Char) : f.step l name = g.step l name := by
  simp only [step, hf, hg]

private theorem walk_cons (f : Files) (l : Location) (name : List Char) (names : List (List Char)) :
    f.walk l (name :: names) = (f.step l name).bind fun next => f.walk next names := by
  rw [walk, List.foldlM_cons]
  rfl

private theorem walk_cons_eq_ok (h : f.walk l (name :: names) = .ok m) :
    ∃ next, f.step l name = .ok next ∧ f.walk next names = .ok m := by
  rw [walk_cons] at h
  cases hs : f.step l name with
  | error e =>
    rw [hs] at h
    cases h
  | ok next =>
    rw [hs] at h
    exact ⟨next, rfl, h⟩

private theorem walk_eq_error (h : f.walk l names = .error e) :
    e = .missing ∨ e = .notDirectory ∨ e = .nameTooLong := by
  induction names generalizing l with
  | nil => cases h
  | cons name names ih =>
    rw [walk_cons] at h
    cases hs : f.step l name with
    | error d =>
      rw [hs] at h
      exact step_eq_error (hs.trans h)
    | ok next =>
      rw [hs] at h
      exact ih h

private theorem directory_of_walk_cons (h : f.walk l (name :: names) = .ok m) :
    f.entry? l = some .directory := by
  obtain ⟨next, hs, -⟩ := walk_cons_eq_ok h
  exact (step_eq_ok hs).1

private theorem lexical_cons (l : Location) (name : List Char) (names : List (List Char)) :
    lexical l (name :: names) = lexical (lexical l [name]) names := rfl

theorem walk_eq_lexical (h : f.walk l names = .ok m) : m = lexical l names := by
  induction names generalizing l with
  | nil => exact (Except.ok.inj h).symm
  | cons name names ih =>
    obtain ⟨next, hs, hw⟩ := walk_cons_eq_ok h
    rw [lexical_cons, ← (step_eq_ok hs).2]
    exact ih hw

theorem directory_of_mem_places (h : f.walk l (names ++ [name]) = .ok m)
    (hk : k ∈ places l names) : f.entry? k = some .directory := by
  induction names generalizing l with
  | nil =>
    rw [List.mem_singleton.mp hk]
    exact directory_of_walk_cons h
  | cons first names ih =>
    obtain ⟨next, hs, hw⟩ := walk_cons_eq_ok h
    obtain ⟨hd, hnext⟩ := step_eq_ok hs
    rcases List.mem_cons.mp hk with rfl | hk
    · exact hd
    · rw [hnext] at hw
      exact ih hw hk

/-- Every directory of one tree of files is one of the other. -/
def KeepsDirectories (f g : Files) : Prop :=
  ∀ l, f.entry? l = some .directory → g.entry? l = some .directory

private theorem walk_of_keepsDirectories (hfg : KeepsDirectories f g) (h : f.walk l names = .ok m) :
    g.walk l names = .ok m := by
  induction names generalizing l with
  | nil => exact h
  | cons name names ih =>
    obtain ⟨next, hs, hw⟩ := walk_cons_eq_ok h
    have hd := (step_eq_ok hs).1
    rw [walk_cons, ← step_congr hd (hfg l hd), hs]
    exact ih hw

theorem KeepsDirectories.trans (hfg : KeepsDirectories f g) (hgh : KeepsDirectories g h) :
    KeepsDirectories f h := fun l hl => hgh l (hfg l hl)

theorem keepsDirectories_put (hl : f.entry? l ≠ some .directory) (e : Entry) :
    KeepsDirectories f (f.put l e) := by
  intro k hk
  have hne : k ≠ l := by
    rintro rfl
    exact hl hk
  rw [entry?_put f (ne_nil_of_entry?_ne hl), if_neg hne, hk]

theorem walkPath_eq_ok {p : Path} (h : f.walkPath l p = .ok m) :
    isPathTooLong p.toString = false ∧ f.walk l p.parts = .ok m := by
  rw [walkPath] at h
  split at h
  · cases h
  · next hp => exact ⟨by simpa using hp, h⟩

theorem walkPath_eq_error {p : Path} (h : f.walkPath l p = .error e) :
    e = .missing ∨ e = .notDirectory ∨ e = .nameTooLong := by
  rw [walkPath] at h
  split at h
  · exact .inr (.inr (Except.error.inj h).symm)
  · exact walk_eq_error h

theorem walkPath_of_keepsDirectories {p : Path} (hfg : KeepsDirectories f g)
    (h : f.walkPath l p = .ok m) : g.walkPath l p = .ok m := by
  obtain ⟨hp, hw⟩ := walkPath_eq_ok h
  rw [walkPath, hp, if_neg (by simp)]
  exact walk_of_keepsDirectories hfg hw

/-- `g` is `f` with directories made at some of the places where nothing was. -/
def MadeWithin (places : List Location) (f g : Files) : Prop :=
  ∀ l, g.entry? l = f.entry? l ∨
    l ∈ places ∧ f.entry? l = none ∧ g.entry? l = some .directory

namespace MadeWithin

variable {ls ks : List Location}

theorem refl (ls : List Location) (f : Files) : MadeWithin ls f f := fun _ => .inl rfl

theorem mono (hls : ls ⊆ ks) (h : MadeWithin ls f g) : MadeWithin ks f g := fun l =>
  (h l).imp_right fun hl => ⟨hls hl.1, hl.2⟩

theorem trans (hfg : MadeWithin ls f g) (hgh : MadeWithin ls g h) : MadeWithin ls f h := by
  intro l
  rcases hgh l with he | ⟨hl, hn, hd⟩
  · rw [he]
    exact hfg l
  · rcases hfg l with he | ⟨-, -, hd'⟩
    · exact .inr ⟨hl, he ▸ hn, hd⟩
    · rw [hd'] at hn
      cases hn

theorem keepsDirectories (h : MadeWithin ls f g) : KeepsDirectories f g := by
  intro l hl
  rcases h l with he | ⟨-, hn, -⟩
  · rw [he, hl]
  · rw [hl] at hn
    cases hn

theorem entry_eq (h : MadeWithin ls f g) (hls : ∀ l ∈ ls, g.entry? l = some .directory)
    (l : Location) :
    g.entry? l = if l ∈ ls ∧ f.entry? l = none then some .directory else f.entry? l := by
  split
  · next hl => exact hls l hl.1
  · next hl =>
    rcases h l with he | ⟨hm, hn, -⟩
    · exact he
    · exact absurd ⟨hm, hn⟩ hl

end MadeWithin

private theorem madeWithin_put (hl : f.entry? l = none) :
    MadeWithin [l] f (f.put l .directory) := by
  have hne : l ≠ [] := by
    rintro rfl
    cases hl
  intro k
  rw [entry?_put f hne]
  by_cases hk : k = l
  · subst hk
    exact .inr ⟨List.mem_singleton_self k, hl, if_pos rfl⟩
  · exact .inl (if_neg hk)

private theorem lexical_mem_places (l : Location) (name : List Char) (names : List (List Char)) :
    lexical l [name] ∈ places l (name :: names) := by
  refine List.mem_cons_of_mem l ?_
  cases names with
  | nil => exact List.mem_singleton_self _
  | cons => exact List.mem_cons_self

theorem madeWithin_makeDirectories (f : Files) (l : Location) (names : List (List Char)) :
    MadeWithin (places l names) f (f.makeDirectories l names).1 := by
  induction names generalizing f l with
  | nil => exact .refl _ f
  | cons name names ih =>
    rw [makeDirectories]
    cases hs : f.step l name with
    | error e => exact .refl _ f
    | ok next =>
      have hnext := (step_eq_ok hs).2
      have hrest : places next names ⊆ places l (name :: names) := by
        rw [hnext]
        exact List.subset_cons_self l _
      cases he : f.entry? next with
      | none =>
        have hput : MadeWithin (places l (name :: names)) f (f.put next .directory) := by
          refine (madeWithin_put he).mono ?_
          intro k hk
          rw [List.mem_singleton.mp hk, hnext]
          exact lexical_mem_places l name names
        simp only [he]
        exact hput.trans ((ih _ next).mono hrest)
      | some e =>
        cases e with
        | directory =>
          simp only [he]
          exact (ih f next).mono hrest
        | file content =>
          simp only [he]
          exact .refl _ f

/-- Where a walk already leads on from the last directory there is nothing to make. -/
theorem makeDirectories_of_walk (h : f.walk l (names ++ [name]) = .ok m) :
    f.makeDirectories l names = (f, none) := by
  induction names generalizing l with
  | nil => rfl
  | cons first names ih =>
    obtain ⟨next, hs, hw⟩ := walk_cons_eq_ok h
    have hd : f.entry? next = some .directory := by
      cases names with
      | nil => exact directory_of_walk_cons hw
      | cons => exact directory_of_walk_cons hw
    rw [makeDirectories, hs]
    simp only [hd]
    exact ih hw

theorem lexical_snoc {c : Char} (hlast : name.getLast? = some c) (hc : c ≠ '.') (l : Location)
    (names : List (List Char)) : lexical l (names ++ [name]) = lexical l names ++ [name] := by
  have hup : name ≠ ['.', '.'] := by
    rintro rfl
    exact hc (Option.some.inj hlast).symm
  simp only [lexical, List.foldl_append, List.foldl_cons, List.foldl_nil,
    Path.isPart_of_getLast? hlast hc, Bool.not_true, Bool.false_eq_true, if_false, if_neg hup]

end RichText.Files
