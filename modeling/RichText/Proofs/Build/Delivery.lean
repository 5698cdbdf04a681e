import RichText.Proofs.Build.Places

/-!
What a reported document is worth. A compilation has succeeded once its engine was run and ended
with status zero; the path of the document is made from that of the output, and the files are not
looked at again. So the document is there exactly if the engine wrote it.
-/

set_option autoImplicit false
set_option relaxedAutoImplicit false

namespace RichText.Build

def Ran (w : World) (directory : Option Path) (out : Path) (before : Files) (run : EngineRun) :
    Prop :=
  ∃ e place, EngineName.found? w.engines = some e ∧
    outputPlace w.here directory out = .ok place ∧
    start { w with files := before } (e.call out place) = .ok run

/-- A path leads to a file in what is made of some files, and it was not there before as it is. -/
def Wrote (here : Location) (p : Path) (before made : Files) : Prop :=
  ∃ l bytes, FileAt made here p l bytes ∧ before.entry? l ≠ some (.file bytes)

/-- A path leads to a file in the end that was written in between; records may stand behind what was
written. -/
def Delivered (here : Location) (p : Path) (before made after : Files) : Prop :=
  ∃ l bytes more, FileAt after here p l (bytes ++ more) ∧
    made.entry? l = some (.file bytes) ∧ before.entry? l ≠ some (.file bytes)

/-- A compilation has succeeded: an engine was run and ended with status zero, and after that only
records were written. -/
structure Succeeded (w : World) (directory : Option Path) (out : Path) (before : Files)
    (run : EngineRun) (v : World) : Prop where
  ran : Ran w directory out before run
  status : run.status = 0
  logged : run.files.Logged w.logging v.files
  shown : ∃ shown, v.stderr =
    shown ++ Text.wrapped World.screenWidth "Generated PDF file successfully."

variable {u v w : World} {source : String} {format : TextFormat} {directory : Option String}
  {d : Option Path} {p out : Path} {before : Files} {run : EngineRun}

private theorem Succeeded.of_beside (hu : u.Beside w) (h : Succeeded u d out before run v) :
    Succeeded w d out before run v where
  ran := by
    obtain ⟨e, place, he, hplace, hstart⟩ := h.ran
    have hagree : World.Agree { u with files := before } { w with files := before } :=
      ⟨rfl, hu.here, hu.engines⟩
    rw [hu.engines] at he
    rw [hu.here] at hplace
    exact ⟨e, place, he, hplace, (start_congr hagree _).symm.trans hstart⟩
  status := h.status
  logged := h.logged.congr hu.handlers
  shown := h.shown

private theorem Succeeded.delivered_iff (h : Succeeded w d out before run v) (here : Location)
    (p : Path) : Delivered here p before run.files v.files ↔ Wrote here p before run.files := by
  constructor
  · rintro ⟨l, bytes, more, hfile, hmade, hnew⟩
    have hback : v.files.KeepsDirectories run.files := fun k => (h.logged.directories k).mpr
    exact ⟨l, bytes, hfile.change hback hmade, hnew⟩
  · rintro ⟨l, bytes, hfile, hnew⟩
    have hkeep : run.files.KeepsDirectories v.files := fun k => (h.logged.directories k).mp
    obtain ⟨more, hmore⟩ := h.logged.files l bytes hfile.2
    exact ⟨l, bytes, more, hfile.change hkeep hmore, hfile.2, hnew⟩

private theorem run_compile_eq_ok {c : Command} {o : Output}
    (h : (compile c).run.run w = (.ok o, v)) : ∃ run r, start w c = .ok run ∧ run.status = 0 ∧
      v = World.record { w with files := run.files } r := by
  rw [compile, Work.run_bind_ok (Work.run_get w)] at h
  cases hs : start w c with
  | error e =>
    rw [hs] at h
    cases e with
    | nulInPath | refused => cases h
  | ok run =>
    have hset : (set { w with files := run.files } : Work Unit).run.run w =
        (.ok (), { w with files := run.files }) := rfl
    rw [hs, Work.run_bind_ok hset] at h
    split at h
    · obtain ⟨_, x, hlog, h⟩ := Work.run_bind_eq_ok h
      obtain rfl := (Prod.mk.inj hlog).2
      split at h
      · next hstatus => exact ⟨run, _, rfl, hstatus, (Prod.mk.inj h).2.symm⟩
      · cases h
    · cases h

private theorem run_engine_eq_ok {e : EngineName} (h : engine.run.run w = (.ok e, v)) :
    EngineName.found? w.engines = some e ∧ ∃ r, v = w.record r := by
  rw [engine, Work.run_bind_ok (Work.run_get w)] at h
  cases hf : EngineName.found? w.engines with
  | none =>
    rw [hf] at h
    cases h
  | some found =>
    rw [hf] at h
    obtain ⟨_, x, hlog, h⟩ := Work.run_bind_eq_ok h
    obtain rfl := (Prod.mk.inj hlog).2
    obtain ⟨he, rfl⟩ := Prod.mk.inj h
    exact ⟨congrArg some (Except.ok.inj he), _, rfl⟩

private theorem run_latexCommand_eq_ok {c : Command}
    (hsource : sourceFormat (Path.ofString source) = .ok format)
    (h : (latexCommand source directory).run.run w = (.ok c, v)) :
    ∃ e place r, EngineName.found? w.engines = some e ∧
      outputPlace w.here (directory? directory) (outputOf source .latex directory) = .ok place ∧
      c = e.call (outputOf source .latex directory) place ∧ v = w.record r := by
  obtain ⟨e, x, he, h⟩ := Work.run_bind_eq_ok h
  obtain ⟨hfound, r, rfl⟩ := run_engine_eq_ok he
  rw [output_eq_ok hsource .latex directory, Work.run_bind_ok (Work.run_ofFailure_ok _ _),
    Work.run_bind_ok (Work.run_get _)] at h
  obtain ⟨place, y, hplace, h⟩ := Work.run_bind_eq_ok h
  rw [Work.run_ofExcept, (World.beside_record w r).here] at hplace
  obtain ⟨hplaced, rfl⟩ := Prod.mk.inj hplace
  obtain ⟨hc, rfl⟩ := Prod.mk.inj h
  exact ⟨e, place, r, hfound, hplaced, (Except.ok.inj hc).symm, rfl⟩

private theorem stays_generate (source : String) (n : Node) (target : String)
    (directory : Option String) : Work.Stays (generate source n target directory) := by
  refine (Work.stays_ofExcept _).bind fun out => (Work.stays_ofExcept _).bind fun t =>
    (Work.stays_ofExcept _).bind fun r => ?_
  refine (Work.Stays.forM (fun _ => Work.stays_log _ _ _) r.skipped).bind fun _ => ?_
  have hwrite : Work.Stays (writeOutput (directory? directory) out (fileText t r.text)) :=
    Work.Stays.of_ends fun w => ⟨_, _, writeOutput_ends w _ _ _⟩
  exact hwrite.bind fun _ => (Work.stays_log _ _ _).bind fun _ => Work.stays_pure out

private theorem stays_reportRoot (n : Node) : Work.Stays (reportRoot n) := by
  rw [reportRoot]
  split
  · exact Work.stays_pure ()
  · exact Work.stays_log _ _ _

private theorem succeeded_of_start {e : EngineName} {place : Location}
    (he : EngineName.found? w.engines = some e) (hplace : outputPlace w.here d out = .ok place)
    (hstart : start w (e.call out place) = .ok run) (hzero : run.status = 0) (r : Record) :
    Succeeded w d out w.files run
      ((World.record { w with files := run.files } r).showLine
        (Text.wrapped World.screenWidth "Generated PDF file successfully.")) where
  ran := ⟨e, place, he, hplace, hstart⟩
  status := hzero
  logged := World.logged_record { w with files := run.files } r
  shown := ⟨_, rfl⟩

private theorem run_compileOutput_succeeded
    (hsource : sourceFormat (Path.ofString source) = .ok format)
    (h : (compileOutput source directory out).run.run w = (.ok p, v)) :
    ∃ before run, w.files.Logged w.logging before ∧
      Succeeded w (directory? directory) (outputOf source .latex directory) before run v := by
  obtain ⟨c, x, hcommand, h⟩ := Work.run_bind_eq_ok h
  obtain ⟨e, place, r, he, hplace, rfl, rfl⟩ := run_latexCommand_eq_ok hsource hcommand
  rw [Work.run_bind_ok (Work.run_status _ _)] at h
  -- the line about the call is shown only, so that the files of the call are those with the record
  generalize hy : (w.record r).showLine _ = y at h
  have hyr : y.Alike (w.record r) := hy ▸ World.alike_showLine _ _
  have hyw : y.Beside w := hyr.beside.trans (World.beside_record w r)
  rw [← hyw.engines] at he
  rw [← hyw.here] at hplace
  obtain ⟨_, z, hcompile, h⟩ := Work.run_bind_eq_ok h
  obtain ⟨run, s, hstart, hzero, rfl⟩ := run_compile_eq_ok hcompile
  rw [Work.run_bind_ok (Work.run_status _ _)] at h
  obtain rfl := (Prod.mk.inj h).2
  have hdone := (succeeded_of_start he hplace hstart hzero s).of_beside hyw
  exact ⟨y.files, run, hyr.files ▸ World.logged_record w r, hdone⟩

/-- Whatever the log is, a build that compiles ends with a path only if the same build without
compiling ends with the output, and the engine was run on what that leaves. -/
theorem run_build_succeeded
    (h : (build source Target.latex.name true directory).run.run w = (.ok p, v)) :
    ∃ n out u before run, load w.files w.here source = .ok n ∧
      (build source Target.latex.name false directory).run.run w = (.ok out, u) ∧
      pdfPath? out = some p ∧ u.files.Logged w.logging before ∧
      (∃ more, before.entry? (World.absolute w.here out) =
        some (.file ((textOf .latex n).toUTF8 ++ more))) ∧
      Succeeded w (directory? directory) out before run v := by
  have hresult := h
  rw [build, Target.ofName_name, Work.run_bind_ok (Work.run_ofFailure_ok _ w),
    Work.run_bind_ok (Work.run_get w)] at h
  obtain ⟨n, x, hload, h⟩ := Work.run_bind_eq_ok h
  have hread := hload
  rw [Work.run_ofExcept] at hload
  obtain ⟨hn, rfl⟩ := Prod.mk.inj hload
  obtain ⟨format, -, -, -, hsource, -⟩ := load_eq_ok hn
  obtain ⟨_, y, hreport, h⟩ := Work.run_bind_eq_ok h
  obtain ⟨out, z, hgenerate, h⟩ := Work.run_bind_eq_ok h
  have hy := stays_reportRoot n w
  rw [hreport] at hy
  have hz := stays_generate source n Target.latex.name directory y
  rw [hgenerate] at hz
  have hzw := hz.trans hy
  obtain ⟨rfl, more, hmore⟩ := run_generate_eq_ok hsource hgenerate
  obtain ⟨before, run, hbefore, hdone⟩ := run_compileOutput_succeeded hsource h
  obtain ⟨rest, hrest⟩ := hbefore.files _ _ hmore
  rw [hy.here, ByteArray.append_assoc] at hrest
  have hpdf := pdfPath?_outputPath (suffix_mem_of_sourceFormat hsource) .latex
    (directory? directory)
  have hp := run_build_eq_ok hsource hresult
  rw [outputOf, hpdf, Option.getD_some] at hp
  -- the two builds part only once the output is written
  have hplain : (build source Target.latex.name false directory).run.run w =
      (.ok (outputOf source .latex directory),
        z.showLine (Text.wrapped World.screenWidth "Generated TeX file successfully.")) := by
    rw [build, Target.ofName_name, Work.run_bind_ok (Work.run_ofFailure_ok _ w),
      Work.run_bind_ok (Work.run_get w), Work.run_bind_ok hread, Work.run_bind_ok hreport,
      Work.run_bind_ok hgenerate]
    rfl
  exact ⟨n, _, _, before, run, hn, hplain, hp ▸ hpdf, hbefore.congr hzw.handlers, ⟨_, hrest⟩,
    hdone.of_beside hzw⟩

/-- A build that compiles reports its document on the word of its engine. It ends with a path only
if the output of the source was written, the engine was run on it and that ended with status zero;
then it says so and returns the path beside the output. The document is there, made in this build,
if and only if the engine wrote it; the files are not looked at again. -/
theorem reported_document
    (h : (build source Target.latex.name true directory).run.run w = (.ok p, v)) :
    ∃ n out u before run, load w.files w.here source = .ok n ∧
      (build source Target.latex.name false directory).run.run w = (.ok out, u) ∧
      pdfPath? out = some p ∧ u.files.Logged w.logging before ∧
      (∃ more, before.entry? (World.absolute w.here out) =
        some (.file ((textOf .latex n).toUTF8 ++ more))) ∧
      Succeeded w (directory? directory) out before run v ∧
      (Delivered w.here p before run.files v.files ↔ Wrote w.here p before run.files) := by
  obtain ⟨n, out, u, before, run, hn, hout, hpdf, hbefore, hwritten, hdone⟩ :=
    run_build_succeeded h
  exact ⟨n, out, u, before, run, hn, hout, hpdf, hbefore, hwritten, hdone,
    hdone.delivered_iff w.here p⟩

/-- The sample with an engine that writes the document. -/
def obliging : World := { sample with
  engines := [("xelatex", .program fun _ _ files =>
    { files := files.put ["cv.pdf".toList] (.file "made".toUTF8), status := 0, stdout := .empty,
      stderr := .empty })] }

theorem reported_document_obliging :
    ∃ v before run, (build "cv.json" Target.latex.name true none).run.run obliging =
        (.ok (Path.ofString "cv.pdf"), v) ∧
      Succeeded obliging none (Path.ofString "cv.tex") before run v ∧
      Delivered obliging.here (Path.ofString "cv.pdf") before run.files v.files := by
  have hresult : ((build "cv.json" Target.latex.name true none).outcome obliging).1.toOption =
      some (Path.ofString "cv.pdf") := by
    decide +kernel
  have hfind : (find? ((build "cv.json" Target.latex.name true none).outcome obliging).2
      obliging.here (Path.ofString "cv.pdf")).toOption = some (some ["cv.pdf".toList]) := by
    decide +kernel
  have hentry : Files.entry? ((build "cv.json" Target.latex.name true none).outcome obliging).2
      ["cv.pdf".toList] = some (.file "made".toUTF8) := by
    decide +kernel
  have houtput : ((build "cv.json" Target.latex.name false none).outcome obliging).1.toOption =
      some (Path.ofString "cv.tex") := by
    decide +kernel
  have hfree : Files.entry? ((build "cv.json" Target.latex.name false none).outcome obliging).2
      ["cv.pdf".toList] = none := by
    decide +kernel
  have hscreen : obliging.logging.IsScreenOnly := fun _ h => absurd h List.not_mem_nil
  obtain ⟨v, hrun⟩ := Work.exists_run_of_toOption hresult
  obtain ⟨-, out, u, before, run, -, hplain, -, hbefore, -, hdone, hdelivered⟩ :=
    reported_document hrun
  rw [Work.outcome, hrun, hdone.logged.quiet hscreen] at hfind hentry
  rw [Work.outcome, hplain] at houtput hfree
  obtain rfl : out = Path.ofString "cv.tex" := Option.some.inj houtput
  -- no log file is open, so that the engine was run on what the build without it leaves
  have hnew : before.entry? ["cv.pdf".toList] ≠ some (.file "made".toUTF8) := by
    rw [hbefore.quiet hscreen, hfree]
    exact (Option.some_ne_none _).symm
  have hfile : FileAt run.files obliging.here (Path.ofString "cv.pdf") ["cv.pdf".toList]
      "made".toUTF8 :=
    ⟨Work.eq_ok_of_toOption hfind, hentry⟩
  exact ⟨v, before, run, hrun, hdone, hdelivered.mpr ⟨_, _, hfile, hnew⟩⟩

def noting : List String → Location → Files → EngineRun := fun arguments _ files =>
  { files := files.put ["engine_args.txt".toList]
      (.file (String.join (arguments.map (· ++ "\n"))).toUTF8)
    status := 0, stdout := .empty, stderr := .empty }

/-- One source, a tree without pages, and an engine that succeeds without a document. -/
def idle : World where
  files := { entries := [(["cv.json".toList], .file "\x7b\"type\": \"doc\"\x7d".toUTF8)] }
  engines := [("xelatex", .program noting)]

/-- Success is reported although no document was made. -/
theorem undelivered_idle :
    ∃ v, (build "cv.json" Target.latex.name true none).run.run idle =
        (.ok (Path.ofString "cv.pdf"), v) ∧
      (∃ shown, v.stderr =
        shown ++ Text.wrapped World.screenWidth "Generated PDF file successfully.") ∧
      ∀ l bytes, ¬ FileAt v.files idle.here (Path.ofString "cv.pdf") l bytes := by
  have hresult : ((build "cv.json" Target.latex.name true none).outcome idle).1.toOption =
      some (Path.ofString "cv.pdf") := by
    decide +kernel
  have hmissing : (find? ((build "cv.json" Target.latex.name true none).outcome idle).2
      idle.here (Path.ofString "cv.pdf")).toOption = some none := by
    decide +kernel
  obtain ⟨v, hrun⟩ := Work.exists_run_of_toOption hresult
  obtain ⟨_, _, _, _, _, -, -, -, -, -, hdone⟩ := run_build_succeeded hrun
  refine ⟨v, hrun, hdone.shown, fun l bytes hfile => ?_⟩
  rw [Work.outcome, hrun, hfile.1] at hmissing
  cases hmissing

end RichText.Build
