import RichText.Build
import RichText.CommandLine.Settings

/-!
The program behind its command line: the arguments are read, the log is configured, the source is
built, and the outcome is an exit code.
-/

set_option autoImplicit false
set_option relaxedAutoImplicit false

namespace RichText.CommandLine

def stackText : String := "<traceback>"

def stop (s : Stop) : Work Nat := do
  match s with
  | .help page =>
    modify fun w => { w with stdout := w.stdout ++ page.help }
    pure 0
  | .version =>
    modify fun w => { w with stdout := w.stdout ++ versionText }
    pure 0
  | .usage page e =>
    modify (·.showLine (page.errorText e))
    pure 2

/-- The level of the log: tracing shows everything, and so does the verbose mode unless another
level than the usual one is chosen. -/
def Settings.logLevel? (s : Settings) : Option Int :=
  if s.traced || (s.verbose && s.level = some Level.warning) then some Level.debug else s.level

/-- Reports a failure and gives its exit code; a fault is left to the caller. -/
def report (p : Problem) : Work Nat := do
  match p with
  | .fault f => throw (.fault f)
  | .failure f =>
    Work.record {
      logger := Logger.commandLine.name
      level := Level.debug
      message := "Build failed"
      detail := some stackText }
    modify (·.showLine s!"Error: {f.message}\n")
    pure f.exitCode

/-- Runs a build with its settings and gives the exit code. The log is configured before the target
is looked at. -/
def runBuild (source : String) (s : Settings) : Work Nat := do
  match s.logLevel? with
  | none => throw (.fault .unnamedLevel)
  | some level =>
    Work.configure level s.logFile s.traced
    match s.target with
    | none => throw (.fault .unnamedTarget)
    | some target =>
      let built : Work Nat := do
        let _ ← Build.build source target.name s.pdf s.directory
        pure 0
      tryCatch built report

def run (arguments : List String) : Work Nat := do
  match settings arguments with
  | .error s => stop s
  | .ok (source, s) => runBuild source s

/-- All places that a run on these arguments looks at or changes, each after the one above it. -/
def places (here : Location) (arguments : List String) : List Location :=
  match settings arguments with
  | .error _ => []
  | .ok (source, s) =>
    let output := s.target.bind fun t => (Build.output source t.name s.directory).toOption
    let paths := [some (Path.ofString source), Build.directory? s.directory, output].filterMap id
    let onWay (p : Path) : List Location := Files.places (World.start here p.root) p.parts
    let log := match Build.directory? s.logFile with
      | some p => Files.places [] (World.absolute here p)
      | none => []
    Files.places [] here ++ paths.flatMap onWay ++ log

end RichText.CommandLine
