import RichText.Proofs.Build.Output
import RichText.Build.Source

/-!
How reading a source ends: one case for each place where it can stop, in the order in which the
source is looked at, and one for the tree. A source reads the same in two trees of files that agree
on its file and on the directories.
-/

set_option autoImplicit false
set_option relaxedAutoImplicit false

namespace RichText.Build

def unreadable (p : Path) (cause : Option String) : Failure where
  reason := .fileAccess p.toString none
  cause := cause

/-- A file at a place that a path leads to. -/
def FileAt (files : Files) (here : Location) (p : Path) (l : Location) (bytes : ByteArray) : Prop :=
  find? files here p = .ok (some l) ∧ files.entry? l = some (.file bytes)

inductive Loaded (files : Files) (here : Location) (p : Path) : Except Problem Node → Prop
  | unsupported : p.suffix ∉ sourceSuffixes →
      Loaded files here p (.error (.failure (unsupportedSource (String.ofList p.suffix))))
  | unreachable {format : TextFormat} {q : Problem} : sourceFormat p = .ok format →
      find? files here p = .error q → Loaded files here p (.error q)
  | missing {format : TextFormat} : sourceFormat p = .ok format → find? files here p = .ok none →
      Loaded files here p (.error (.failure { reason := .fileNotFound p.toString none }))
  | directory {format : TextFormat} {l : Location} : sourceFormat p = .ok format →
      find? files here p = .ok (some l) → files.entry? l = some .directory →
      Loaded files here p
        (.error (.failure (unreadable p (some (SystemError.isDirectory.message p.toString)))))
  | bytes {format : TextFormat} {l : Location} {bytes : ByteArray} : sourceFormat p = .ok format →
      FileAt files here p l bytes → Text.ofBytes? bytes = none →
      Loaded files here p (.error (.failure (unreadable p none)))
  | invalid {format : TextFormat} {l : Location} {bytes : ByteArray} {text : String}
      {e : ReadError} : sourceFormat p = .ok format → FileAt files here p l bytes →
      Text.ofBytes? bytes = some text → (Node.read format .strict text).outcome = .error e →
      Loaded files here p (.error (readProblem p e))
  | tree {format : TextFormat} {l : Location} {bytes : ByteArray} {text : String} {n : Node} :
      sourceFormat p = .ok format → FileAt files here p l bytes →
      Text.ofBytes? bytes = some text → (Node.read format .strict text).outcome = .ok n →
      Loaded files here p (.ok n)

variable {files after : Files} {here : Location} {p : Path}

theorem find?_eq_some {l : Location} (h : find? files here p = .ok (some l)) :
    World.holdsNul p.toString = false ∧ files.walkPath (World.start here p.root) p = .ok l ∧
      files.entry? l ≠ none := by
  rw [find?] at h
  split at h
  · cases h
  · next hnul =>
    refine ⟨by simpa using hnul, ?_⟩
    split at h
    · next k hk =>
      split at h
      · next hsome =>
        obtain rfl := Option.some.inj (Except.ok.inj h)
        exact ⟨hk, by simpa [Option.isSome_iff_ne_none] using hsome⟩
      · cases h
    · cases h
    · cases h
    · cases h

theorem eq_absolute_of_find? {l : Location} (h : find? files here p = .ok (some l)) :
    l = World.absolute here p :=
  Files.walk_eq_lexical (Files.walkPath_eq_ok (find?_eq_some h).2.1).2

private theorem load_of_find? {source : String} {format : TextFormat} {l : Location}
    (hformat : sourceFormat (Path.ofString source) = .ok format)
    (hl : find? files here (Path.ofString source) = .ok (some l)) :
    load files here source = (do
      let text ← readText files (Path.ofString source) l
      (Node.read format .strict text).outcome.mapError (readProblem (Path.ofString source))) := by
  simp only [load, hformat, hl]
  rfl

theorem loaded (files : Files) (here : Location) (source : String) :
    Loaded files here (Path.ofString source) (load files here source) := by
  cases hf : TextFormat.ofSuffix? (Path.ofString source).suffix with
  | none =>
    simp only [load, sourceFormat, hf]
    exact .unsupported ((ofSuffix?_eq_none_iff _).mp hf)
  | some format =>
    have hformat : sourceFormat (Path.ofString source) = .ok format := by rw [sourceFormat, hf]
    cases hl : find? files here (Path.ofString source) with
    | error q =>
      simp only [load, hformat, hl]
      exact .unreachable hformat hl
    | ok l? =>
      cases l? with
      | none =>
        simp only [load, hformat, hl]
        exact .missing hformat hl
      | some l =>
        rw [load_of_find? hformat hl]
        cases he : files.entry? l with
        | none => exact absurd he (find?_eq_some hl).2.2
        | some e =>
          cases e with
          | directory =>
            simp only [readText, Files.read, he]
            exact .directory hformat hl he
          | file bytes =>
            cases ht : Text.ofBytes? bytes with
            | none =>
              simp only [readText, Files.read, he, ht]
              exact .bytes hformat ⟨hl, he⟩ ht
            | some text =>
              simp only [readText, Files.read, he, ht]
              cases hn : (Node.read format .strict text).outcome with
              | error e =>
                simp only [bind, Except.bind, hn]
                exact .invalid hformat ⟨hl, he⟩ ht hn
              | ok n =>
                simp only [bind, Except.bind, hn]
                exact .tree hformat ⟨hl, he⟩ ht hn

theorem load_eq_ok {source : String} {n : Node} (h : load files here source = .ok n) :
    ∃ format l bytes text, sourceFormat (Path.ofString source) = .ok format ∧
      FileAt files here (Path.ofString source) l bytes ∧ Text.ofBytes? bytes = some text ∧
      (Node.read format .strict text).outcome = .ok n := by
  have hl := loaded files here source
  rw [h] at hl
  cases hl with
  | tree hformat hfile htext hn => exact ⟨_, _, _, _, hformat, hfile, htext, hn⟩

theorem FileAt.unique {l k : Location} {bytes other : ByteArray}
    (hl : FileAt files here p l bytes) (hk : FileAt files here p k other) :
    l = k ∧ bytes = other := by
  obtain rfl : l = k := Option.some.inj (Except.ok.inj (hl.1.symm.trans hk.1))
  exact ⟨rfl, Entry.file.inj (Option.some.inj (hl.2.symm.trans hk.2))⟩

theorem FileAt.change {l : Location} {bytes other : ByteArray} (h : FileAt files here p l bytes)
    (hkeep : files.KeepsDirectories after) (hl : after.entry? l = some (.file other)) :
    FileAt after here p l other := by
  obtain ⟨hnul, hwalk, -⟩ := find?_eq_some h.1
  have hafter := Files.walkPath_of_keepsDirectories hkeep hwalk
  refine ⟨?_, hl⟩
  rw [find?, hnul, if_neg (by simp), hafter]
  simp [hl]

theorem FileAt.keep {l : Location} {bytes : ByteArray} (h : FileAt files here p l bytes)
    (hkeep : files.KeepsDirectories after) (hl : after.entry? l = files.entry? l) :
    FileAt after here p l bytes :=
  h.change hkeep (hl.trans h.2)

theorem load_eq_of_fileAt {source : String} {format : TextFormat} {l : Location}
    {bytes : ByteArray} {text : String}
    (hformat : sourceFormat (Path.ofString source) = .ok format)
    (hfile : FileAt files here (Path.ofString source) l bytes)
    (htext : Text.ofBytes? bytes = some text) :
    load files here source =
      (Node.read format .strict text).outcome.mapError (readProblem (Path.ofString source)) := by
  have hread : readText files (Path.ofString source) l = .ok text := by
    simp only [readText, Files.read, hfile.2, htext]
  rw [load_of_find? hformat hfile.1, hread]
  rfl

end RichText.Build
