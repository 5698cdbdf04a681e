import RichText.Engine
import RichText.Failure
import RichText.Logging
import RichText.Text.Wrap
import RichText.Yaml.Fault

/-!
The world around a build: the files, the engines, the log and the two streams. Work on it is pure,
and ends with a result or a problem.
-/

set_option autoImplicit false
set_option relaxedAutoImplicit false

namespace RichText

structure World where
  files : Files := {}
  here : Location := []
  engines : Engines := []
  logging : Logging := {}
  /-- The time that traced records carry. -/
  time : String := ""
  stdout : String := ""
  stderr : String := ""

/-- What no step of the library turns into a failure of its own. -/
inductive Fault
  | nulInPath
  | system (error : SystemError) (subject : String)
  | value (fault : Yaml.ValueFault)
  | notUtf8
  | unnamedTarget
  | unnamedLevel
  deriving Repr

def Fault.message : Fault → String
  | .nulInPath => "embedded null byte"
  | .system e subject => e.message subject
  | .value f => f.message
  | .notUtf8 => "the output of the program is not UTF-8"
  | .unnamedTarget => "unhashable type: 'list'"
  | .unnamedLevel => "'list' object has no attribute 'upper'"

inductive Problem
  | failure (failure : Failure)
  | fault (fault : Fault)

/-- Work on the world. What it did before a problem stays done. -/
abbrev Work := ExceptT Problem (StateM World)

namespace World

def holdsNul (s : String) : Bool := s.toList.contains '\x00'

def start (here : Location) : Path.Root → Location
  | .relative => here
  | .absolute => []
  | .doubled => []

/-- The place a path leads to by its names alone. -/
def absolute (here : Location) (p : Path) : Location := Files.lexical (start here p.root) p.parts

/-- The same, where a path that the system cannot read is a fault. -/
def resolve (here : Location) (p : Path) : Except Problem Location :=
  if holdsNul p.toString then .error (.fault .nulInPath) else .ok (absolute here p)

def screenWidth : Nat := 80

def showLine (w : World) (s : String) : World := { w with stderr := w.stderr ++ s }

def writeLine (w : World) (sink : Sink) (line : String) : World :=
  match sink with
  | .screen => w.showLine line
  | .file l => { w with files := w.files.append l line.toUTF8 }

def record (w : World) (r : Record) : World :=
  let w := { w with logging := w.logging.use r.logger }
  (w.logging.lines w.time r).foldl (fun w l => w.writeLine l.1 l.2) w

end World

namespace Work

def fail {α : Type} (f : Failure) : Work α := throw (.failure f)

def ofExcept {α : Type} : Except Problem α → Work α
  | .ok a => pure a
  | .error p => throw p

def ofFailure {α : Type} (r : Except Failure α) : Work α := ofExcept (r.mapError .failure)

def record (r : Record) : Work Unit := modify (·.record r)

def log (logger : Logger) (level : Int) (message : String) : Work Unit :=
  record { logger := logger.name, level, message }

def status (message : String) : Work Unit :=
  modify (·.showLine (Text.wrapped World.screenWidth message))

/-- Opens a file for adding to it, which makes it where it is missing. -/
def openLog (file : String) : Work (Except String Location) := do
  let w ← get
  if World.holdsNul file then throw (.fault .nulInPath)
  let path := Path.ofString file
  let l := World.absolute w.here path
  let shown := path.root.above ++ l.toString
  match if Files.isPathTooLong shown then .error .nameTooLong else w.files.walk [] l with
  | .error e => pure (.error (e.message shown))
  | .ok _ => match w.files.entry? l with
    | some .directory => pure (.error (SystemError.isDirectory.message shown))
    | _ =>
      set { w with files := w.files.append l ByteArray.empty }
      pure (.ok l)

/-- Configures the log anew. A file that cannot be opened is reported and left out; an empty name
stands for none. -/
def configure (level : Int) (file : Option String) (traced : Bool) : Work Unit := do
  modify fun w => { w with logging := w.logging.reset level traced }
  match file with
  | none => pure ()
  | some "" => pure ()
  | some file => match ← openLog file with
    | .error reason =>
      log .library Level.warning s!"Could not open log file {file}: {reason}"
    | .ok l =>
      modify fun w => { w with logging := w.logging.addFile traced l }
      log .library Level.debug s!"Logging to file: {file}"

end Work

end RichText
