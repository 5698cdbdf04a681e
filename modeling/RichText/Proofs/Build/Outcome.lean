import RichText.Proofs.Build.Compiling
import RichText.Proofs.Build.Reading
import RichText.Proofs.Build.Writing

/-!
How a build ends. Reading the source changes nothing, writing the output changes the files as it
does on its own, and only then the output is compiled, on the files as they are by then.
-/

set_option autoImplicit false
set_option relaxedAutoImplicit false

namespace RichText.Build

def textOf (t : Target) (n : Node) : String := fileText t (t.dialect.render n).text

variable {v w : World} {source : String} {format : TextFormat}

private theorem generate_ends (hw : w.logging.IsScreenOnly)
    (hsource : sourceFormat (Path.ofString source) = .ok format) (n : Node) (t : Target)
    (directory : Option String) :
    Work.Ends (generate source n t.name directory) w
      ((placed w (directory? directory) (outputOf source t directory) (textOf t n)).1.map
        fun _ => outputOf source t directory)
      (placed w (directory? directory) (outputOf source t directory) (textOf t n)).2 := by
  rw [generate, output_eq_ok hsource t directory, Target.ofName_name]
  refine (Work.ends_ofFailure_ok _ w).bind fun v hv => ?_
  refine (Work.ends_ofFailure_ok _ v).bind fun v₁ hv₁ => ?_
  refine (Work.ends_ofFailure_ok _ v₁).bind fun v₂ hv₂ => ?_
  have hv₂ := hv₂.trans (hv₁.trans hv)
  refine (Work.ends_forM_log (hv₂.isScreenOnly hw) _ _ _ _).bind fun u hu => ?_
  have hu := hu.trans hv₂
  have hwritten := writeOutput_ends u (directory? directory) (outputOf source t directory)
    (textOf t n)
  rw [placed_congr hu.toAgree] at hwritten
  cases hr : (placed w (directory? directory) (outputOf source t directory) (textOf t n)).1 with
  | error p =>
    rw [hr] at hwritten
    exact hwritten.bind_error
  | ok =>
    rw [hr] at hwritten
    refine hwritten.bind fun x hx => ?_
    have hquiet := hx.isScreenOnly (hu.isScreenOnly hw)
    refine (Work.ends_log hquiet _ _ _).bind fun y hy => ?_
    exact (Work.ends_pure _ y).leaving (hy.files.trans hx.files)

private theorem reportRoot_ends (hw : w.logging.IsScreenOnly) (n : Node) :
    Work.Ends (reportRoot n) w (.ok ()) w.files := by
  rw [reportRoot]
  split
  · exact Work.ends_pure () w
  · exact Work.ends_log hw _ _ _

/-- How a build ends: `files` are the files once its output is written. -/
inductive Built (w : World) (source target : String) (pdf : Bool) (directory : Option String) :
    Except Problem Path → Files → Prop
  | untargeted {f : Failure} : Target.ofName target = .error f →
      Built w source target pdf directory (.error (.failure f)) w.files
  | unread {t : Target} {p : Problem} : Target.ofName target = .ok t →
      load w.files w.here source = .error p →
      Built w source target pdf directory (.error p) w.files
  | unwritten {t : Target} {n : Node} {p : Problem} {files : Files} :
      Target.ofName target = .ok t → load w.files w.here source = .ok n →
      placed w (directory? directory) (outputOf source t directory) (textOf t n) =
        (.error p, files) →
      Built w source target pdf directory (.error p) files
  | written {t : Target} {n : Node} {files : Files} :
      Target.ofName target = .ok t → load w.files w.here source = .ok n →
      placed w (directory? directory) (outputOf source t directory) (textOf t n) = (.ok (), files) →
      (t = .latex → pdf = false) →
      Built w source target pdf directory (.ok (outputOf source t directory)) files
  | compiled {n : Node} {files after : Files} {r : Except Problem Path} :
      Target.ofName target = .ok .latex → load w.files w.here source = .ok n →
      placed w (directory? directory) (outputOf source .latex directory) (textOf .latex n) =
        (.ok (), files) →
      pdf = true →
      Compiled { w with files } (directory? directory) (outputOf source .latex directory) r after →
      Built w source target pdf directory r after

variable {target : String} {pdf : Bool} {directory : Option String}

theorem exists_built (w : World) (source target : String) (pdf : Bool)
    (directory : Option String) : ∃ r files, Built w source target pdf directory r files := by
  cases ht : Target.ofName target with
  | error f => exact ⟨_, _, .untargeted ht⟩
  | ok t =>
    cases hn : load w.files w.here source with
    | error p => exact ⟨_, _, .unread ht hn⟩
    | ok n =>
      cases hplaced : placed w (directory? directory) (outputOf source t directory)
          (textOf t n) with
      | mk r files =>
        cases r with
        | error p => exact ⟨_, _, .unwritten ht hn hplaced⟩
        | ok =>
          by_cases hpdf : t = .latex ∧ pdf = true
          · obtain ⟨rfl, rfl⟩ := hpdf
            obtain ⟨r, after, hr⟩ := exists_compiled { w with files } (directory? directory)
              (outputOf source .latex directory)
            exact ⟨_, _, .compiled ht hn hplaced rfl hr⟩
          · exact ⟨_, _, .written ht hn hplaced fun h => by simpa [h] using hpdf⟩

theorem Built.congr (h : v.Agree w) {r : Except Problem Path} {files : Files}
    (hr : Built w source target pdf directory r files) :
    Built v source target pdf directory r files := by
  have hload : load v.files v.here source = load w.files w.here source := by rw [h.files, h.here]
  cases hr with
  | untargeted ht => exact h.files ▸ .untargeted ht
  | unread ht hn => exact h.files ▸ .unread ht (hload.trans hn)
  | unwritten ht hn hplaced =>
    exact .unwritten ht (hload.trans hn) ((placed_congr h _ _ _).trans hplaced)
  | written ht hn hplaced hpdf =>
    exact .written ht (hload.trans hn) ((placed_congr h _ _ _).trans hplaced) hpdf
  | compiled ht hn hplaced hpdf hr =>
    exact .compiled ht (hload.trans hn) ((placed_congr h _ _ _).trans hplaced) hpdf
      (hr.congr (h.withFiles _))

private theorem build_ends_of_load {t : Target} {n : Node} {r : Except Problem Path} {files : Files}
    (hw : w.logging.IsScreenOnly) (hn : load w.files w.here source = .ok n)
    (hrest : ∀ v : World, v.Alike w →
      Work.Ends (generate source n t.name directory >>= finish source t pdf directory) v r files) :
    Work.Ends (build source t.name pdf directory) w r files := by
  rw [build, Target.ofName_name]
  refine (Work.ends_ofFailure_ok t w).bind fun v hv => Work.Ends.get_bind ?_
  rw [hv.files, hv.here, hn]
  refine (Work.ends_ofExcept _ v).bind fun u hu => ?_
  have hu := hu.trans hv
  refine (reportRoot_ends (hu.isScreenOnly hw) n).bind fun x hx => ?_
  have hx := hx.trans hu
  exact hrest x hx

private theorem generate_ends_of_placed {t : Target} {n : Node} {r : Except Problem Unit}
    {files : Files} (hw : w.logging.IsScreenOnly) (hn : load w.files w.here source = .ok n)
    (hr : placed w (directory? directory) (outputOf source t directory) (textOf t n) = (r, files))
    (hv : v.Alike w) :
    Work.Ends (generate source n t.name directory) v (r.map fun _ => outputOf source t directory)
      files := by
  obtain ⟨format, -, -, -, hsource, -⟩ := load_eq_ok hn
  have hgenerate := generate_ends (hv.isScreenOnly hw) hsource n t directory
  rwa [placed_congr hv.toAgree, hr] at hgenerate

private theorem finish_ends_of_written {t : Target} (h : t = .latex → pdf = false) (out : Path)
    (w : World) :
    Work.Ends (finish source t pdf directory out) w (.ok out) w.files := by
  cases t with
  | markdown =>
    refine (Work.ends_status w _).bind fun v hv => ?_
    exact (Work.ends_pure out v).leaving hv.files
  | latex =>
    rw [h rfl]
    refine (Work.ends_status w _).bind fun v hv => ?_
    exact (Work.ends_pure out v).leaving hv.files

theorem build_ends (hw : w.logging.IsScreenOnly) {r : Except Problem Path} {files : Files}
    (h : Built w source target pdf directory r files) :
    Work.Ends (build source target pdf directory) w r files := by
  cases h with
  | untargeted ht =>
    rw [build, ht]
    exact (Work.ends_fail _ w).bind_error
  | unread ht hn =>
    rw [Target.eq_name_of_ofName ht, build, Target.ofName_name]
    refine (Work.ends_ofFailure_ok _ w).bind fun v hv => Work.Ends.get_bind ?_
    rw [hv.files, hv.here, hn]
    exact ((Work.ends_ofExcept _ v).leaving hv.files).bind_error
  | unwritten ht hn hplaced =>
    rw [Target.eq_name_of_ofName ht]
    refine build_ends_of_load hw hn fun v hv => ?_
    exact (generate_ends_of_placed hw hn hplaced hv).bind_error
  | written ht hn hplaced hpdf =>
    rw [Target.eq_name_of_ofName ht]
    refine build_ends_of_load hw hn fun v hv => ?_
    refine (generate_ends_of_placed hw hn hplaced hv).bind fun u hu => ?_
    exact (finish_ends_of_written hpdf _ u).leaving hu.files
  | @compiled n placed _ _ ht hn hplaced hpdf hr =>
    rw [Target.eq_name_of_ofName ht, hpdf]
    refine build_ends_of_load hw hn fun v hv => ?_
    refine (generate_ends_of_placed hw hn hplaced hv).bind fun u hu => ?_
    have hu := hu.trans (hv.withFiles placed)
    obtain ⟨format, -, -, -, hsource, -⟩ := load_eq_ok hn
    exact compileOutput_ends (hu.isScreenOnly hw) hsource (hr.congr hu.toAgree)

/-- Every build ends in one of these ways. -/
theorem built_of_outcome (hw : w.logging.IsScreenOnly) {r : Except Problem Path} {files : Files}
    (h : Work.outcome (build source target pdf directory) w = (r, files)) :
    Built w source target pdf directory r files := by
  obtain ⟨s, made, hbuilt⟩ := exists_built w source target pdf directory
  have houtcome := (build_ends hw hbuilt).outcome_eq
  rw [h] at houtcome
  obtain ⟨rfl, rfl⟩ := Prod.mk.inj houtcome
  exact hbuilt

end RichText.Build
