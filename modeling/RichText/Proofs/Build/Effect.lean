import RichText.Proofs.Build.Outcome

/-!
The exact effect of a build that compiles nothing. When it succeeds the source was a tree, the files
differ by the output and the directories made for it, and building once more changes nothing.
-/

set_option autoImplicit false
set_option relaxedAutoImplicit false

namespace RichText.Build

variable {w : World} {source : String} {t : Target} {pdf : Bool} {directory : Option String}
  {p : Path} {files : Files}

private theorem Built.exists_placed {target : String}
    (h : Built w source target pdf directory (.ok p) files) (ht : Target.ofName target = .ok t)
    (hpdf : t = .latex → pdf = false) :
    p = outputOf source t directory ∧ ∃ n, load w.files w.here source = .ok n ∧
      placed w (directory? directory) (outputOf source t directory) (textOf t n) =
        (.ok (), files) := by
  cases h with
  | written hu hn hplaced =>
    obtain rfl := Except.ok.inj (hu.symm.trans ht)
    exact ⟨rfl, _, hn, hplaced⟩
  | compiled hu _ _ htrue =>
    obtain rfl := Except.ok.inj (hu.symm.trans ht)
    rw [hpdf rfl] at htrue
    cases htrue

private theorem Placement.entry_source {n : Node} {format : TextFormat} {made : Files}
    {l : Location}
    (h : Placement w (directory? directory) (outputOf source t directory) (textOf t n) made files)
    (hsource : sourceFormat (Path.ofString source) = .ok format)
    (hl : find? w.files w.here (Path.ofString source) = .ok (some l)) :
    files.entry? l = w.files.entry? l := by
  have hthere := (find?_eq_some hl).2.2
  have hne : l ≠ World.absolute w.here (outputOf source t directory) := by
    rw [eq_absolute_of_find? hl]
    exact (absolute_outputPath_ne (suffix_mem_of_sourceFormat hsource) t _ w.here).symm
  rw [h.entry_eq, if_neg hne, if_neg fun hnone => hthere hnone.2]

theorem Placement.fileAt {out : Path} {text : String} {d : Option Path} {made : Files}
    (h : Placement w d out text made files) :
    FileAt files w.here out (World.absolute w.here out) text.toUTF8 := by
  have hentry : files.entry? (World.absolute w.here out) = some (.file text.toUTF8) := by
    rw [h.entry_eq, if_pos rfl]
  refine ⟨?_, hentry⟩
  rw [find?, h.readable, if_neg (by simp), h.walkPath_eq]
  simp [hentry]

private theorem Placement.load_eq {n : Node} {made : Files}
    (h : Placement w (directory? directory) (outputOf source t directory) (textOf t n) made files)
    (hn : load w.files w.here source = .ok n) : load files w.here source = .ok n := by
  obtain ⟨format, l, bytes, text, hsource, hfile, htext, -⟩ := load_eq_ok hn
  have hafter := hfile.keep h.keepsDirectories (h.entry_source hsource hfile.1)
  rw [load_eq_of_fileAt hsource hafter htext, ← load_eq_of_fileAt hsource hfile htext, hn]

def sample : World where
  files := {
    entries := [(["cv.json".toList], .file "\x7b\"type\": \"text\", \"text\": \"Hi\"\x7d".toUTF8)] }

end RichText.Build
