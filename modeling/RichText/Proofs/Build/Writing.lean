import RichText.Build
import RichText.Proofs.Build.Output
import RichText.Proofs.World.Ends

/-!
What writing an output makes of the files. The missing directories are made first, as far as the
system lets them; then the text is written, and no other place changes. Writing the same text at the
same place again finds everything as it should be.
-/

set_option autoImplicit false
set_option relaxedAutoImplicit false

namespace RichText

open Files (MadeWithin KeepsDirectories)

def World.chain (here : Location) (directory : Option Path) : List Location :=
  match directory with
  | none => []
  | some d => Files.places (World.start here d.root) d.parts

namespace Build

/-- How making the directory of an output ends and the files it leaves. -/
def madeDirectory (w : World) (out d : Path) : Except Problem Unit × Files :=
  if World.holdsNul d.toString then (.error (.fault .nulInPath), w.files)
  else match w.files.makePath (World.start w.here d.root) d with
    | (files, none) => (.ok (), files)
    | (files, some e) => (.error (.failure (refusal out e d)), files)

def written (w : World) (out : Path) (text : String) : Except Problem Unit × Files :=
  if World.holdsNul out.toString then (.error (.fault .nulInPath), w.files)
  else match (w.files.walkPath (World.start w.here out.root) out).bind fun l =>
      w.files.write l text.toUTF8 with
    | .ok files => (.ok (), files)
    | .error e => (.error (.failure (refusal out e out)), w.files)

/-- How writing an output ends, with its directory made before. -/
def placed (w : World) (directory : Option Path) (out : Path) (text : String) :
    Except Problem Unit × Files :=
  match directory with
  | none => written w out text
  | some d => match madeDirectory w out d with
    | (.error p, files) => (.error p, files)
    | (.ok (), files) => written { w with files } out text

private theorem makeDirectory_ends (w : World) (out d : Path) :
    Work.Ends (makeDirectory out d) w (madeDirectory w out d).1 (madeDirectory w out d).2 := by
  refine Work.Ends.get_bind ?_
  rw [madeDirectory]
  split
  · exact Work.ends_throw _ w
  · obtain ⟨files, refused⟩ := w.files.makePath (World.start w.here d.root) d
    cases refused with
    | none => exact ⟨rfl, .refl _⟩
    | some e => exact ⟨rfl, .refl _⟩

private theorem writeText_ends (w : World) (out : Path) (text : String) :
    Work.Ends (writeText out text) w (written w out text).1 (written w out text).2 := by
  refine Work.Ends.get_bind ?_
  rw [written]
  split
  · exact Work.ends_throw _ w
  · cases (w.files.walkPath (World.start w.here out.root) out).bind fun l =>
        w.files.write l text.toUTF8 with
    | ok files => exact Work.ends_set w files
    | error e => exact Work.ends_fail _ w

theorem placed_congr {v w : World} (h : v.Agree w) (directory : Option Path) (out : Path)
    (text : String) : placed v directory out text = placed w directory out text := by
  simp only [placed, madeDirectory, written, h.files, h.here]

theorem writeOutput_ends (w : World) (directory : Option Path) (out : Path) (text : String) :
    Work.Ends (writeOutput directory out text) w (placed w directory out text).1
      (placed w directory out text).2 := by
  cases directory with
  | none => exact writeText_ends w out text
  | some d =>
    have hmade := makeDirectory_ends w out d
    simp only [placed]
    split
    · next p files he =>
      rw [he] at hmade
      exact hmade.bind_error
    · next files he =>
      rw [he] at hmade
      refine hmade.bind fun v hv => ?_
      rw [show written { w with files } out text = written v out text from
        (placed_congr hv.toAgree none out text).symm]
      exact writeText_ends v out text

variable {w : World} {d out : Path} {text : String} {files : Files} {p : Problem}

theorem written_eq_ok (h : written w out text = (.ok (), files)) :
    World.holdsNul out.toString = false ∧
      ∃ l, w.files.walkPath (World.start w.here out.root) out = .ok l ∧
        w.files.entry? l ≠ some .directory ∧ files = w.files.put l (.file text.toUTF8) := by
  rw [written] at h
  split at h
  · cases h
  · next hnul =>
    refine ⟨by simpa using hnul, ?_⟩
    cases hw : w.files.walkPath (World.start w.here out.root) out with
    | error e =>
      rw [hw] at h
      cases h
    | ok l =>
      refine ⟨l, rfl, ?_⟩
      rw [hw] at h
      simp only [Except.bind] at h
      split at h
      · next g hg =>
        obtain ⟨hd, hput⟩ := Files.write_eq_ok hg
        exact ⟨hd, (Prod.mk.inj h).2.symm.trans hput⟩
      · cases h

private theorem written_eq_error (h : written w out text = (.error p, files)) :
    files = w.files ∧ (p = .fault .nulInPath ∨ ∃ e, p = .failure (refusal out e out)) := by
  rw [written] at h
  split at h
  · obtain ⟨hp, hfiles⟩ := Prod.mk.inj h
    exact ⟨hfiles.symm, .inl (Except.error.inj hp).symm⟩
  · split at h
    · cases h
    · obtain ⟨hp, hfiles⟩ := Prod.mk.inj h
      exact ⟨hfiles.symm, .inr ⟨_, (Except.error.inj hp).symm⟩⟩

theorem madeDirectory_eq_ok (h : madeDirectory w out d = (.ok (), files)) :
    World.holdsNul d.toString = false ∧
      w.files.makePath (World.start w.here d.root) d = (files, none) := by
  rw [madeDirectory] at h
  split at h
  · cases h
  · next hnul =>
    refine ⟨by simpa using hnul, ?_⟩
    split at h
    · next hmade => rw [hmade, (Prod.mk.inj h).2]
    · cases h

theorem madeDirectory_eq_error (h : madeDirectory w out d = (.error p, files)) :
    p = .fault .nulInPath ∨ ∃ e, p = .failure (refusal out e d) ∧
      w.files.makePath (World.start w.here d.root) d = (files, some e) := by
  rw [madeDirectory] at h
  split at h
  · exact .inl (Except.error.inj (Prod.mk.inj h).1).symm
  · split at h
    · cases h
    · next e hmade =>
      obtain ⟨hp, hfiles⟩ := Prod.mk.inj h
      rw [← hfiles]
      exact .inr ⟨e, (Except.error.inj hp).symm, hmade⟩

private theorem madeWithin_makePath (f : Files) (here : Location) (d : Path) :
    MadeWithin (World.chain here (some d)) f (f.makePath (World.start here d.root) d).1 := by
  rw [Files.makePath]
  split
  · exact .refl _ f
  · exact Files.madeWithin_makeDirectories f _ d.parts

private theorem madeWithin_madeDirectory (w : World) (out d : Path) :
    MadeWithin (World.chain w.here (some d)) w.files (madeDirectory w out d).2 := by
  have hmade := madeWithin_makePath w.files w.here d
  rw [madeDirectory]
  split
  · exact .refl _ w.files
  · split
    · next he => rwa [he] at hmade
    · next he => rwa [he] at hmade

theorem placed_eq_error {directory : Option Path}
    (h : placed w directory out text = (.error p, files)) :
    MadeWithin (World.chain w.here directory) w.files files ∧
      (p = .fault .nulInPath ∨ ∃ e place, p = .failure (refusal out e place)) := by
  cases directory with
  | none =>
    obtain ⟨hfiles, hp⟩ := written_eq_error h
    refine ⟨hfiles ▸ .refl _ _, hp.imp_right fun ⟨e, he⟩ => ⟨e, out, he⟩⟩
  | some d =>
    have hmade := madeWithin_madeDirectory w out d
    rw [placed] at h
    split at h
    · next q made he =>
      rw [he] at hmade
      obtain ⟨hp, hfiles⟩ := Prod.mk.inj h
      obtain rfl := Except.error.inj hp
      refine ⟨hfiles ▸ hmade, (madeDirectory_eq_error he).imp_right fun ⟨e, hr, _⟩ => ⟨e, d, hr⟩⟩
    · next made he =>
      rw [he] at hmade
      obtain ⟨hfiles, hp⟩ := written_eq_error h
      refine ⟨hfiles ▸ hmade, hp.imp_right fun ⟨e, he⟩ => ⟨e, out, he⟩⟩

def LiesIn (out : Path) (directory : Option Path) : Prop :=
  ∀ d, directory = some d → ∃ name, out = d.child name

theorem liesIn_outputPath (t : Target) (directory : Option Path) (source : Path) :
    LiesIn (outputPath t directory source) directory := by
  rintro d rfl
  exact ⟨_, rfl⟩

/-- An output was written: `made` are the files once its directory was there. -/
structure Placement (w : World) (directory : Option Path) (out : Path) (text : String)
    (made files : Files) : Prop where
  within : MadeWithin (World.chain w.here directory) w.files made
  chain : ∀ l ∈ World.chain w.here directory, made.entry? l = some .directory
  readable : World.holdsNul out.toString = false
  leads : made.walkPath (World.start w.here out.root) out = .ok (World.absolute w.here out)
  free : made.entry? (World.absolute w.here out) ≠ some .directory
  files_eq : files = made.put (World.absolute w.here out) (.file text.toUTF8)

variable {directory : Option Path} {made : Files}

theorem exists_placement (hout : LiesIn out directory)
    (h : placed w directory out text = (.ok (), files)) :
    ∃ made, Placement w directory out text made files := by
  cases directory with
  | none =>
    obtain ⟨hnul, l, hw, hd, hfiles⟩ := written_eq_ok h
    obtain rfl := Files.walk_eq_lexical (Files.walkPath_eq_ok hw).2
    exact ⟨w.files, .refl _ _, fun l hl => absurd hl List.not_mem_nil, hnul, hw, hd, hfiles⟩
  | some d =>
    have hmade := madeWithin_madeDirectory w out d
    rw [placed] at h
    split at h
    · cases h
    · next made he =>
      rw [he] at hmade
      obtain ⟨hnul, l, hw, hd, hfiles⟩ := written_eq_ok h
      obtain rfl := Files.walk_eq_lexical (Files.walkPath_eq_ok hw).2
      refine ⟨made, hmade, ?_, hnul, hw, hd, hfiles⟩
      -- the path of the output goes on by one name where that of the directory ends
      obtain ⟨name, rfl⟩ := hout d rfl
      intro l hl
      exact Files.directory_of_mem_places (Files.walkPath_eq_ok hw).2 hl

namespace Placement

variable (h : Placement w directory out text made files)

include h

theorem keepsDirectories_made : KeepsDirectories made files := by
  rw [h.files_eq]
  exact Files.keepsDirectories_put h.free _

theorem keepsDirectories : KeepsDirectories w.files files :=
  h.within.keepsDirectories.trans h.keepsDirectories_made

/-- The output holds the text, the places on the way to its directory are directories, and all other
places are as they were. -/
theorem entry_eq (l : Location) :
    files.entry? l =
      if l = World.absolute w.here out then some (.file text.toUTF8)
      else if l ∈ World.chain w.here directory ∧ w.files.entry? l = none then some .directory
      else w.files.entry? l := by
  rw [h.files_eq, Files.entry?_put made (Files.ne_nil_of_entry?_ne h.free),
    h.within.entry_eq h.chain]

theorem walkPath_eq :
    files.walkPath (World.start w.here out.root) out = .ok (World.absolute w.here out) :=
  Files.walkPath_of_keepsDirectories h.keepsDirectories_made h.leads

private theorem written_eq :
    written { w with files } out text = (.ok (), files) := by
  have hhere : files.entry? (World.absolute w.here out) = some (.file text.toUTF8) := by
    rw [h.entry_eq, if_pos rfl]
  have hne : World.absolute w.here out ≠ [] := Files.ne_nil_of_entry?_ne h.free
  rw [written, h.readable, if_neg (by simp)]
  simp only [h.walkPath_eq, Except.bind, Files.write, hhere, Files.put_eq_self hne hhere]

private theorem madeDirectory_eq {d : Path} (hd : directory = some d) (hout : LiesIn out directory)
    (hnul : World.holdsNul d.toString = false) (hlong : Files.isPathTooLong d.toString = false) :
    madeDirectory { w with files } out d = (.ok (), files) := by
  obtain ⟨name, rfl⟩ := hout d hd
  have hwalk := (Files.walkPath_eq_ok h.walkPath_eq).2
  have hmake : files.makePath (World.start w.here d.root) d = (files, none) := by
    rw [Files.makePath, hlong, if_neg (by simp)]
    exact Files.makeDirectories_of_walk hwalk
  rw [madeDirectory, hnul, if_neg (by simp)]
  simp only [hmake]

end Placement

private theorem isPathTooLong_of_makePath {f made : Files} {start : Location}
    (h : f.makePath start d = (made, none)) : Files.isPathTooLong d.toString = false := by
  rw [Files.makePath] at h
  split at h
  · cases h
  · next hd => simpa using hd

theorem placed_again (hout : LiesIn out directory)
    (h : placed w directory out text = (.ok (), files)) :
    placed { w with files } directory out text = (.ok (), files) := by
  obtain ⟨made, hp⟩ := exists_placement hout h
  cases directory with
  | none => exact hp.written_eq
  | some d =>
    rw [placed] at h
    split at h
    · cases h
    · next he =>
      obtain ⟨hnul, hmake⟩ := madeDirectory_eq_ok he
      rw [placed, hp.madeDirectory_eq rfl hout hnul (isPathTooLong_of_makePath hmake)]
      exact hp.written_eq

end Build

end RichText
