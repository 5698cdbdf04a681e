import RichText.CommandLine
import RichText.Proofs.Build.Failures

/-!
The exit code names the first stage of a build that fails. Each stage has a condition of its own on
the world, apart from the program: a suffix that is not known, a source that cannot be read, a text
that is no tree, an output that cannot be written, a call that fails, an engine that is missing.
-/

set_option autoImplicit false
set_option relaxedAutoImplicit false

namespace RichText.CommandLine

open Build

/-- The suffix of the source stands for no format. -/
def Unsupported (source : String) : Prop :=
  (Path.ofString source).suffix ∉ [".json".toList, ".yaml".toList, ".yml".toList]

/-- At the source is nothing, a directory, or a file that is no text. -/
def Unreadable (w : World) (source : String) : Prop :=
  (∀ l, find? w.files w.here (Path.ofString source) ≠ .ok (some l)) ∨
  (∃ l, find? w.files w.here (Path.ofString source) = .ok (some l) ∧
    w.files.entry? l = some .directory) ∨
  ∃ l bytes, FileAt w.files w.here (Path.ofString source) l bytes ∧ ¬ bytes.IsValidUTF8

/-- The text at the source has no value in the format of its suffix, or the value is no tree. -/
def Invalid (w : World) (source : String) : Prop :=
  ∃ format l bytes text, TextFormat.ofSuffix? (Path.ofString source).suffix = some format ∧
    FileAt w.files w.here (Path.ofString source) l bytes ∧ Text.ofBytes? bytes = some text ∧
    ((∃ e, format.parse text = .error e) ∨
      ∃ value, format.parse text = .ok value ∧ ∀ n, (Node.load .strict value).outcome ≠ .ok n)

def DirectoryMade (w : World) (made : Files) : Option Path → Prop
  | none => made = w.files
  | some d => w.files.makePath (World.start w.here d.root) d = (made, none)

/-- The directory of an output can be made, and where the output goes then is no directory. -/
def Writable (w : World) (directory : Option Path) (out : Path) : Prop :=
  ∃ made l, DirectoryMade w made directory ∧
    made.walkPath (World.start w.here out.root) out = .ok l ∧ made.entry? l ≠ some .directory

/-- The call cannot be started or ends with another status than zero. -/
def Fails (w : World) (c : Command) : Prop :=
  (∃ e subject, start w c = .error (.refused e subject)) ∨
  ∃ run, start w c = .ok run ∧ run.status ≠ 0

/-- An engine is found, and its call on the written output fails. -/
def EngineFails (w : World) (source : String) (directory : Option String) : Prop :=
  ∃ n files e place, load w.files w.here source = .ok n ∧
    placed w (directory? directory) (outputOf source .latex directory) (textOf .latex n) =
      (.ok (), files) ∧
    EngineName.found? w.engines = some e ∧
    outputPlace w.here (directory? directory) (outputOf source .latex directory) = .ok place ∧
    Fails { w with files } (e.call (outputOf source .latex directory) place)

open Classical in
/-- The code of the first stage that fails, and zero where none does. -/
noncomputable def stageCode (w : World) (source : String) (t : Target) (pdf : Bool)
    (directory : Option String) : Nat :=
  if Unsupported source then 5
  else if Unreadable w source then 4
  else if Invalid w source then 6
  else if ¬ Writable w (directory? directory) (outputOf source t directory) ∨
      pdf = true ∧ t = .latex ∧ EngineFails w source directory then 7
  else if pdf = true ∧ t = .latex ∧ w.engines.has "xelatex" = false ∧
      w.engines.has "tectonic" = false then 2
  else 0

variable {w : World} {source : String} {t : Target} {pdf : Bool} {directory : Option String}
  {files : Files} {f : Failure} {p : Path}

private theorem ofBytes?_eq_none_iff (bytes : ByteArray) :
    Text.ofBytes? bytes = none ↔ ¬ bytes.IsValidUTF8 := by
  simp [Text.ofBytes?, String.fromUTF8?]

private theorem unsupported_iff (source : String) :
    Unsupported source ↔ (Path.ofString source).suffix ∉ sourceSuffixes := by
  simp only [Unsupported, sourceSuffixes, TextFormat.suffixes, List.map_cons, List.map_nil,
    List.mem_cons, List.not_mem_nil, or_false]
  tauto

private theorem not_unsupported {format : TextFormat}
    (h : sourceFormat (Path.ofString source) = .ok format) : ¬ Unsupported source := by
  rw [unsupported_iff, not_not]
  exact suffix_mem_of_sourceFormat h

private theorem not_unreadable {l : Location} {bytes : ByteArray} {text : String}
    (hfile : FileAt w.files w.here (Path.ofString source) l bytes)
    (htext : Text.ofBytes? bytes = some text) : ¬ Unreadable w source := by
  rintro (hnone | ⟨k, hk, hd⟩ | ⟨k, other, hk, hvalid⟩)
  · exact hnone l hfile.1
  · obtain rfl : l = k := Option.some.inj (Except.ok.inj (hfile.1.symm.trans hk))
    have he := hfile.2.symm.trans hd
    cases he
  · obtain ⟨rfl, rfl⟩ := hfile.unique hk
    rw [← ofBytes?_eq_none_iff, htext] at hvalid
    cases hvalid

private theorem read_eq_error {format : TextFormat} {text : String} {e : ReadError}
    (h : (Node.read format .strict text).outcome = .error e) :
    e = .yaml (.value .endless) ∨ (∃ e, format.parse text = .error e) ∨
      ∃ value, format.parse text = .ok value ∧ ∀ n, (Node.load .strict value).outcome ≠ .ok n := by
  rw [Node.read] at h
  cases hp : format.parse text with
  | error e => exact .inr (.inl ⟨e, rfl⟩)
  | ok value =>
    rw [hp] at h
    dsimp only at h
    split at h
    · exact .inl (Except.error.inj h).symm
    · refine .inr (.inr ⟨value, rfl, fun n hn => ?_⟩)
      rw [hn] at h
      cases h

private theorem not_invalid {format : TextFormat} {l : Location} {bytes : ByteArray} {text : String}
    {n : Node} (hformat : sourceFormat (Path.ofString source) = .ok format)
    (hfile : FileAt w.files w.here (Path.ofString source) l bytes)
    (htext : Text.ofBytes? bytes = some text)
    (hn : (Node.read format .strict text).outcome = .ok n) : ¬ Invalid w source := by
  rintro ⟨other, k, otherBytes, otherText, hother, hk, htext', hwrong⟩
  obtain ⟨rfl, rfl⟩ := hfile.unique hk
  obtain rfl : text = otherText := Option.some.inj (htext.symm.trans htext')
  obtain rfl : format = other := Option.some.inj ((sourceFormat_eq_ok hformat).symm.trans hother)
  rw [Node.read] at hn
  rcases hwrong with ⟨e, he⟩ | ⟨value, hvalue, hnone⟩
  · rw [he] at hn
    cases hn
  · rw [hvalue] at hn
    dsimp only at hn
    split at hn
    · cases hn
    · cases hr : (Node.load .strict value).outcome with
      | error e =>
        rw [hr] at hn
        cases hn
      | ok m => exact hnone m hr

private theorem exitCode_of_parsing (h : f.reason.kind = .parsing) : f.exitCode = 6 := by
  obtain ⟨reason, cause⟩ := f
  cases reason with
  | parsing => rfl
  | _ => cases h

private theorem stageCode_of_load_error (t : Target) (pdf : Bool) (directory : Option String)
    (h : load w.files w.here source = .error (.failure f)) :
    f.exitCode = stageCode w source t pdf directory := by
  have hloaded := loaded w.files w.here source
  rw [h] at hloaded
  -- the problem of a wrong text is computed from the error, so no case could match it as it stands
  generalize hq : Problem.failure f = q at hloaded
  cases hloaded with
  | unsupported hs =>
    rw [stageCode, if_pos ((unsupported_iff source).mpr hs), Problem.failure.inj hq]
    rfl
  | unreachable _ hfind =>
    obtain ⟨fault, rfl⟩ := find?_eq_error hfind
    cases hq
  | missing hformat hfind =>
    have hunreadable : Unreadable w source := .inl fun l hl => by
      rw [hfind] at hl
      cases hl
    rw [stageCode, if_neg (not_unsupported hformat), if_pos hunreadable, Problem.failure.inj hq]
    rfl
  | directory hformat hfind hentry =>
    have hunreadable : Unreadable w source := .inr (.inl ⟨_, hfind, hentry⟩)
    rw [stageCode, if_neg (not_unsupported hformat), if_pos hunreadable, Problem.failure.inj hq]
    rfl
  | bytes hformat hfile htext =>
    have hunreadable : Unreadable w source :=
      .inr (.inr ⟨_, _, hfile, (ofBytes?_eq_none_iff _).mp htext⟩)
    rw [stageCode, if_neg (not_unsupported hformat), if_pos hunreadable, Problem.failure.inj hq]
    rfl
  | invalid hformat hfile htext he =>
    have hinvalid : Invalid w source := by
      rcases read_eq_error he with rfl | hwrong
      · cases hq
      · exact ⟨_, _, _, _, sourceFormat_eq_ok hformat, hfile, htext, hwrong⟩
    rw [stageCode, if_neg (not_unsupported hformat), if_neg (not_unreadable hfile htext),
      if_pos hinvalid]
    exact exitCode_of_parsing (kind_readProblem hq.symm)

open Classical in
private theorem stageCode_of_load {n : Node} (hn : load w.files w.here source = .ok n) :
    stageCode w source t pdf directory =
      if ¬ Writable w (directory? directory) (outputOf source t directory) ∨
        pdf = true ∧ t = .latex ∧ EngineFails w source directory then 7
      else if pdf = true ∧ t = .latex ∧ w.engines.has "xelatex" = false ∧
        w.engines.has "tectonic" = false then 2
      else 0 := by
  obtain ⟨format, l, bytes, text, hformat, hfile, htext, hread⟩ := load_eq_ok hn
  rw [stageCode, if_neg (not_unsupported hformat), if_neg (not_unreadable hfile htext),
    if_neg (not_invalid hformat hfile htext hread)]

private theorem writable_of_placed {d : Option Path} {out : Path} {text : String}
    (h : placed w d out text = (.ok (), files)) : Writable w d out := by
  cases d with
  | none =>
    obtain ⟨-, l, hwalk, hfree, -⟩ := written_eq_ok h
    exact ⟨w.files, l, rfl, hwalk, hfree⟩
  | some d =>
    rw [placed] at h
    split at h
    · cases h
    · next made hmade =>
      obtain ⟨-, l, hwalk, hfree, -⟩ := written_eq_ok h
      exact ⟨made, l, (madeDirectory_eq_ok hmade).2, hwalk, hfree⟩

private theorem not_free_of_written {out : Path} {text : String} {l : Location}
    (h : written w out text = (.error (.failure f), files))
    (hl : w.files.walkPath (World.start w.here out.root) out = .ok l) :
    w.files.entry? l = some .directory := by
  rw [written] at h
  split at h
  · cases h
  · rw [hl] at h
    simp only [Except.bind, Files.write] at h
    cases he : w.files.entry? l with
    | none =>
      rw [he] at h
      cases h
    | some e =>
      cases e with
      | directory => rfl
      | file =>
        rw [he] at h
        cases h

private theorem not_writable_of_placed {d : Option Path} {out : Path} {text : String}
    (h : placed w d out text = (.error (.failure f), files)) : ¬ Writable w d out := by
  rintro ⟨made, l, hmade, hwalk, hfree⟩
  cases d with
  | none =>
    obtain rfl : made = w.files := hmade
    exact hfree (not_free_of_written h hwalk)
  | some d =>
    have hmake : w.files.makePath (World.start w.here d.root) d = (made, none) := hmade
    rw [placed] at h
    split at h
    · next he =>
      obtain ⟨hp, -⟩ := Prod.mk.inj h
      obtain rfl := Except.error.inj hp
      rcases madeDirectory_eq_error he with hfault | ⟨e, -, hrefused⟩
      · cases hfault
      · rw [hmake] at hrefused
        cases (Prod.mk.inj hrefused).2
    · next he =>
      obtain rfl := (Prod.mk.inj (hmake.symm.trans (madeDirectory_eq_ok he).2)).1
      exact hfree (not_free_of_written h hwalk)

private theorem found?_eq_none_iff (engines : Engines) :
    EngineName.found? engines = none ↔
      engines.has "xelatex" = false ∧ engines.has "tectonic" = false := by
  simp [EngineName.found?, EngineName.all, EngineName.program]

private theorem fails_of_called {c : Command} (h : Called w c (.error (.failure f)) files) :
    Fails w c ∧ f.exitCode = 7 := by
  cases h with
  | refused hs => exact ⟨.inl ⟨_, _, hs⟩, rfl⟩
  | failed hs _ _ hstatus => exact ⟨.inr ⟨_, hs, hstatus⟩, rfl⟩

private theorem not_fails_of_called {c : Command} {o : Output} (h : Called w c (.ok o) files) :
    ¬ Fails w c := by
  cases h with
  | succeeded hs _ _ hstatus =>
    rintro (⟨e, subject, hrefused⟩ | ⟨run, hrun, hne⟩)
    · rw [hs] at hrefused
      cases hrefused
    · obtain rfl := Except.ok.inj (hs.symm.trans hrun)
      exact hne hstatus

private theorem engineFails_iff {n : Node} {made : Files} {e : EngineName} {place : Location}
    (hn : load w.files w.here source = .ok n)
    (hplaced : placed w (directory? directory) (outputOf source .latex directory)
      (textOf .latex n) = (.ok (), made))
    (he : EngineName.found? w.engines = some e)
    (hplace : outputPlace w.here (directory? directory) (outputOf source .latex directory) =
      .ok place) :
    EngineFails w source directory ↔
      Fails { w with files := made } (e.call (outputOf source .latex directory) place) := by
  constructor
  · rintro ⟨m, files, other, k, hm, hfiles, hother, hk, hfails⟩
    obtain rfl := Except.ok.inj (hn.symm.trans hm)
    obtain rfl := (Prod.mk.inj (hplaced.symm.trans hfiles)).2
    obtain rfl := Option.some.inj (he.symm.trans hother)
    obtain rfl := Except.ok.inj (hplace.symm.trans hk)
    exact hfails
  · intro hfails
    exact ⟨n, made, e, place, hn, hplaced, he, hplace, hfails⟩

/-- The failure of a build has the code of the first stage that fails. -/
theorem exitCode_eq_stageCode
    (h : Built w source t.name pdf directory (.error (.failure f)) files) :
    f.exitCode = stageCode w source t pdf directory := by
  cases h with
  | untargeted ht =>
    rw [Target.ofName_name] at ht
    cases ht
  | unread _ hn => exact stageCode_of_load_error t pdf directory hn
  | unwritten ht hn hplaced =>
    obtain rfl := Target.eq_of_ofName_name ht
    have hwritable := not_writable_of_placed hplaced
    rw [stageCode_of_load hn, if_pos (.inl hwritable)]
    rcases (placed_eq_error hplaced).2 with hp | ⟨e, place, hp⟩
    · cases hp
    · rw [Problem.failure.inj hp]
      rfl
  | compiled ht hn hplaced hpdf hr =>
    obtain rfl := Target.eq_of_ofName_name ht
    have hwritable := writable_of_placed hplaced
    rw [stageCode_of_load hn]
    generalize hq : Problem.failure f = q at hr
    cases hr with
    | unequipped he =>
      have hengine : ¬ EngineFails w source directory := by
        rintro ⟨_, _, e, _, _, _, hfound, _⟩
        rw [he] at hfound
        cases hfound
      rw [if_neg fun h => h.elim (absurd hwritable) fun h => hengine h.2.2,
        if_pos ⟨hpdf, rfl, (found?_eq_none_iff w.engines).mp he⟩, Problem.failure.inj hq]
      rfl
    | nowhere _ hplace =>
      rw [outputPlace_eq_error hplace] at hq
      cases hq
    | failed he hplace hcalled =>
      subst hq
      obtain ⟨hfails, hcode⟩ := fails_of_called hcalled
      have hengine := (engineFails_iff hn hplaced he hplace).mpr hfails
      rw [if_pos (.inr ⟨hpdf, rfl, hengine⟩), hcode]

private theorem stageCode_eq_zero (h : Built w source t.name pdf directory (.ok p) files) :
    stageCode w source t pdf directory = 0 := by
  cases h with
  | written ht hn hplaced hpdf =>
    obtain rfl := Target.eq_of_ofName_name ht
    have hwritable := writable_of_placed hplaced
    have hlatex : ¬ (pdf = true ∧ t = .latex) := by
      rintro ⟨htrue, hl⟩
      rw [hpdf hl] at htrue
      cases htrue
    rw [stageCode_of_load hn, if_neg, if_neg]
    · exact fun h => hlatex ⟨h.1, h.2.1⟩
    · exact fun h => h.elim (absurd hwritable) fun h => hlatex ⟨h.1, h.2.1⟩
  | compiled ht hn hplaced hpdf hr =>
    obtain rfl := Target.eq_of_ofName_name ht
    have hwritable := writable_of_placed hplaced
    cases hr with
    | succeeded he hplace hcalled =>
      have hengine : ¬ EngineFails w source directory := fun h =>
        not_fails_of_called hcalled ((engineFails_iff hn hplaced he hplace).mp h)
      have hfound : ¬ (w.engines.has "xelatex" = false ∧ w.engines.has "tectonic" = false) := by
        rw [← found?_eq_none_iff]
        intro hnone
        have hsome : EngineName.found? w.engines = some _ := he
        rw [hnone] at hsome
        cases hsome
      rw [stageCode_of_load hn, if_neg, if_neg]
      · exact fun h => hfound h.2.2
      · exact fun h => h.elim (absurd hwritable) fun h => hengine h.2.2

private theorem code_of_tryCatch {u v : World} {m : Work Path} {c : Nat}
    (h : (tryCatch (do let _ ← m; pure 0) report).run.run u = (.ok c, v)) :
    (∃ p, (m.outcome u).1 = .ok p ∧ c = 0) ∨
      ∃ f, (m.outcome u).1 = .error (.failure f) ∧ c = f.exitCode := by
  cases hm : m.run.run u with
  | mk r x =>
    have hr : (m.outcome u).1 = r := by rw [Work.outcome, hm]
    cases r with
    | ok p =>
      have hrun : (do let _ ← m; pure 0 : Work Nat).run.run u = (.ok 0, x) := Work.run_bind_ok hm
      rw [Work.run_tryCatch_ok hrun] at h
      exact .inl ⟨p, hr, (Except.ok.inj (Prod.mk.inj h).1).symm⟩
    | error problem =>
      have hrun : (do let _ ← m; pure 0 : Work Nat).run.run u = (.error problem, x) :=
        Work.run_bind_error hm
      rw [Work.run_tryCatch_error hrun] at h
      cases problem with
      | fault => cases (Prod.mk.inj h).1
      | failure f => exact .inr ⟨f, hr, (Except.ok.inj (Prod.mk.inj h).1).symm⟩

private theorem exists_build_of_run {arguments : List String} {s : Settings} {c : Nat} {v : World}
    (hs : settings arguments = .ok (source, s)) (hlog : s.logFile = none)
    (h : (run arguments).run.run w = (.ok c, v)) :
    ∃ t u, s.target = some t ∧ w.Agree u ∧ u.logging.IsScreenOnly ∧
      (tryCatch (do let _ ← build source t.name s.pdf s.directory; pure 0) report).run.run u =
        (.ok c, v) := by
  rw [run, hs] at h
  simp only [runBuild, hlog] at h
  cases hlevel : s.logLevel? with
  | none =>
    rw [hlevel] at h
    cases (Prod.mk.inj h).1
  | some level =>
    rw [hlevel] at h
    have hconfigure : (Work.configure level none s.traced).run.run w =
        (.ok (), { w with logging := w.logging.reset level s.traced }) := rfl
    rw [Work.run_bind_ok hconfigure] at h
    cases ht : s.target with
    | none =>
      rw [ht] at h
      cases (Prod.mk.inj h).1
    | some t =>
      rw [ht] at h
      refine ⟨t, { w with logging := w.logging.reset level s.traced }, rfl, ⟨rfl, rfl, rfl⟩, ?_, h⟩
      intro x hx
      rw [List.mem_singleton.mp hx]

/-- The exit code is that of the first stage that fails, whatever the arguments ask for, as long as
they name no log file. -/
theorem exit_code {arguments : List String} {s : Settings} {c : Nat} {v : World}
    (hs : settings arguments = .ok (source, s)) (hlog : s.logFile = none)
    (h : (run arguments).run.run w = (.ok c, v)) :
    ∃ t, s.target = some t ∧ c = stageCode w source t s.pdf s.directory ∧ c ≠ 1 ∧ c ≠ 3 := by
  obtain ⟨t, u, ht, hu, hscreen, hrun⟩ := exists_build_of_run hs hlog h
  obtain ⟨r, files, hbuilt⟩ := exists_built u source t.name s.pdf s.directory
  have houtcome := (build_ends hscreen hbuilt).outcome_eq
  have hcode : c = stageCode w source t s.pdf s.directory := by
    rcases code_of_tryCatch hrun with ⟨p, hp, rfl⟩ | ⟨f, hf, rfl⟩
    · rw [houtcome] at hp
      obtain rfl : r = .ok p := hp
      exact (stageCode_eq_zero (hbuilt.congr hu)).symm
    · rw [houtcome] at hf
      obtain rfl : r = .error (.failure f) := hf
      exact exitCode_eq_stageCode (hbuilt.congr hu)
  have hother : stageCode w source t s.pdf s.directory ≠ 1 ∧
      stageCode w source t s.pdf s.directory ≠ 3 := by
    unfold stageCode
    split_ifs <;> decide
  exact ⟨t, ht, hcode, hcode ▸ hother.1, hcode ▸ hother.2⟩

theorem exit_code_wiping :
    ∃ v, (run ["build", "cv.json"]).run.run wiping = (.ok 7, v) ∧
      stageCode wiping "cv.json" .latex true none = 7 := by
  have hs : settings ["build", "cv.json"] = .ok ("cv.json", {}) := by rfl
  have hcode : ((run ["build", "cv.json"]).outcome wiping).1.toOption = some 7 := by
    decide +kernel
  obtain ⟨v, hrun⟩ := Work.exists_run_of_toOption hcode
  obtain ⟨t, ht, hstage, -⟩ := exit_code hs rfl hrun
  obtain rfl : Target.latex = t := Option.some.inj ht
  exact ⟨v, hrun, hstage.symm⟩

end RichText.CommandLine
