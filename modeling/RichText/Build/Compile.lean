import RichText.Build.Output
import RichText.Text.Lines
import RichText.World

/-!
Compiling a written file: which engine is used, how it is called, and what comes of the call.
-/

set_option autoImplicit false
set_option relaxedAutoImplicit false

namespace RichText

structure Command where
  program : String
  arguments : List String := []
  directory : String := "."
  deriving DecidableEq, Repr

def Command.line (c : Command) : List String := c.program :: c.arguments

namespace Build

/-- The engines that are looked for, the preferred one first. -/
inductive EngineName
  | xelatex
  | tectonic
  deriving DecidableEq, Repr

namespace EngineName

def program : EngineName → String
  | .xelatex => "xelatex"
  | .tectonic => "tectonic"

def all : List EngineName := [.xelatex, .tectonic]

def arguments (file : String) : EngineName → List String
  | .xelatex => ["-halt-on-error", file]
  | .tectonic => [file]

def found? (engines : Engines) : Option EngineName := all.find? fun e => engines.has e.program

def call (e : EngineName) (out : Path) (place : Location) : Command where
  program := e.program
  arguments := e.arguments (String.ofList out.name)
  directory := place.toString

end EngineName

def noEngine : Failure where
  reason := .dependency "LaTeX compilation" (EngineName.all.map EngineName.program) none

def engine : Work EngineName := do
  let w ← get
  match EngineName.found? w.engines with
  | some e =>
    Work.log .build Level.debug s!"Using LaTeX engine: {e.program}"
    pure e
  | none => Work.fail noEngine

def outputPlace (here : Location) (directory : Option Path) (out : Path) :
    Except Problem Location :=
  match directory with
  | some d => World.resolve here d
  | none => (World.resolve here out).map List.dropLast

/-- The call that compiles the output of a source in the directory of that output. -/
def latexCommand (source : String) (directory : Option String) : Work Command := do
  let e ← engine
  let out ← Work.ofFailure (output source Target.latex.name directory)
  let w ← get
  let place ← Work.ofExcept (outputPlace w.here (directory? directory) out)
  pure (e.call out place)

inductive StartError
  | nulInPath
  | refused (error : SystemError) (subject : String)
  deriving Repr

def runDirectory (w : World) (directory : String) : Except SystemError Location :=
  if directory = "" then .error .missing
  else if Files.isPathTooLong directory then .error .nameTooLong
  else
    let start := World.start w.here (Path.rootOf directory.toList)
    match w.files.walk start (Path.segments directory.toList) with
    | .error e => .error e
    | .ok l => match w.files.entry? l with
      | none => .error .missing
      | some (.file _) => .error .notDirectory
      | some .directory => .ok l

/-- Why a file cannot be run by its path: none of the files is a program. -/
def pathError (w : World) (l : Location) (path : String) : SystemError :=
  if Files.isPathTooLong path then .nameTooLong
  else match w.files.walk (World.start l (Path.rootOf path.toList)) (Path.segments path.toList) with
  | .error e => e
  | .ok l => if (w.files.entry? l).isSome then .denied else .missing

/-- The program of a name. The names of directories are not those of programs. -/
def findProgram (w : World) (l : Location) (name : String) :
    Except SystemError (List String → Location → Files → EngineRun) :=
  if name.toList.contains '/' then .error (pathError w l name)
  else match w.engines.get? name with
    | some (.program run) => .ok run
    | some .broken => .error .badFormat
    | some .forbidden => .error .denied
    | none =>
      if name = "" || name = "." || name = ".." then .error .denied
      else if Files.isTooLong name.toList then .error .nameTooLong
      else .error .missing

/-- Runs a call; a directory that cannot be entered is found before a program that cannot be run. -/
def start (w : World) (c : Command) : Except StartError EngineRun :=
  if (c.directory :: c.line).any World.holdsNul then .error .nulInPath
  else match runDirectory w c.directory with
    | .error e => .error (.refused e c.directory)
    | .ok l => match findProgram w l c.program with
      | .error e => .error (.refused e c.program)
      | .ok run => .ok (run c.arguments l w.files)

structure Output where
  stdout : String
  stderr : String
  deriving DecidableEq, Repr

/-- Compiles: a call that cannot be started or ends with another status than zero fails. -/
def compile (c : Command) : Work Output := do
  let w ← get
  match start w c with
  | .error .nulInPath => throw (.fault .nulInPath)
  | .error (.refused e subject) =>
    let reason := e.message subject
    Work.fail {
      reason := .compile c.line none "" "" (some s!"Failed to run {c.program}: {reason}")
      cause := some reason }
  | .ok run =>
    set { w with files := run.files }
    match Text.ofBytes? run.stdout, Text.ofBytes? run.stderr with
    | some stdout, some stderr =>
      Work.log .build Level.debug s!"stdout:\n{stdout}"
      if run.status = 0 then pure { stdout, stderr }
      else
        Work.log .build Level.debug s!"stderr:\n{stderr}"
        Work.fail { reason := .compile c.line (some run.status) stdout stderr none }
    | _, _ => throw (.fault .notUtf8)

end Build

end RichText
