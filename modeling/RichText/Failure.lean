import RichText.Arguments
import RichText.Layout
import RichText.Value

/-!
The failures of the library, each with the facts its message is made of, and the exit code of each
category.
-/

set_option autoImplicit false
set_option relaxedAutoImplicit false

namespace RichText

/-- What failed. A message given by the caller takes the place of the usual one. -/
inductive Failure.Reason
  | general (message : String)
  | validation (message : String) (parameter : Option String) (value : Value)
  | layout (dialect : String) (expected received : Layout.Family) (message : Option String)
  | file (message : String) (path : Option String)
  | fileNotFound (path : String) (message : Option String)
  | fileAccess (path : String) (message : Option String)
  | format (name : Option String) (supported : Option (List String)) (message : Option String)
  | parsing (message : String) (path : Option String)
  | rendering (message : String) (stage : Option String)
  | outputWrite (path : String) (message : Option String)
  | compile (command : List String) (status : Option Int) (stdout stderr : String)
      (message : Option String)
  | dependency (purpose : String) (programs : List String) (message : Option String)

/-- A failure and the text of the error that caused it, if there is one. -/
structure Failure where
  reason : Failure.Reason
  cause : Option String := none

namespace Failure

/-- The kinds of failures; some of them are special cases of others. -/
inductive Kind
  | general
  | validation
  | layout
  | file
  | fileNotFound
  | fileAccess
  | format
  | parsing
  | rendering
  | outputWrite
  | compile
  | dependency
  deriving DecidableEq, Repr

namespace Kind

def title : Kind → String
  | .general => "ResumeDocError"
  | .validation => "ValidationError"
  | .layout => "InvalidOptionsError"
  | .file => "FileError"
  | .fileNotFound => "FileNotFoundError"
  | .fileAccess => "FileAccessError"
  | .format => "FormatError"
  | .parsing => "ParsingError"
  | .rendering => "RenderingError"
  | .outputWrite => "OutputWriteError"
  | .compile => "LatexCompileError"
  | .dependency => "DependencyError"

def all : List Kind :=
  [.general, .validation, .layout, .file, .fileNotFound, .fileAccess, .format, .parsing, .rendering,
    .outputWrite, .compile, .dependency]

def ofTitle? (title : String) : Option Kind := all.find? fun k => k.title = title

def parent? : Kind → Option Kind
  | .general => none
  | .layout => some .validation
  | .fileNotFound | .fileAccess => some .file
  | .outputWrite | .compile => some .rendering
  | _ => some .general

/-- The parameters from which a failure of a kind is made: the required ones come first. -/
def parameters : Kind → List Parameter
  | .general => made ["message"] ["original_error"]
  | .validation => made ["message"] ["parameter_name", "parameter_value", "original_error"]
  | .layout =>
    made ["generator_name", "expected_type", "received_type"] ["message", "original_error"]
  | .file | .parsing => made ["message"] ["file_path", "original_error"]
  | .fileNotFound | .fileAccess | .outputWrite => made ["file_path"] ["message", "original_error"]
  | .format => made [] ["message", "format_type", "supported_formats", "original_error"]
  | .rendering => made ["message"] ["rendering_stage", "original_error"]
  | .compile => made ["command"] ["returncode", "stdout", "stderr", "message", "original_error"]
  | .dependency => made ["dependency_name", "missing_programs"] ["message"]
where
  made (required optional : List String) : List Parameter :=
    required.map (fun n => { name := n })
      ++ optional.map fun n => { name := n, isRequired := false }

def check (k : Kind) (names : List String) : Except ArgumentError Unit :=
  checkArguments (k.title ++ ".__init__") k.parameters names

end Kind

inductive Category
  | general
  | validation
  | file
  | format
  | parsing
  | rendering
  | dependency
  deriving DecidableEq, Repr

def Category.exitCode : Category → Nat
  | .general => 1
  | .dependency => 2
  | .validation => 3
  | .file => 4
  | .format => 5
  | .parsing => 6
  | .rendering => 7

namespace Reason

def kind : Reason → Kind
  | .general _ => .general
  | .validation _ _ _ => .validation
  | .layout _ _ _ _ => .layout
  | .file _ _ => .file
  | .fileNotFound _ _ => .fileNotFound
  | .fileAccess _ _ => .fileAccess
  | .format _ _ _ => .format
  | .parsing _ _ => .parsing
  | .rendering _ _ => .rendering
  | .outputWrite _ _ => .outputWrite
  | .compile _ _ _ _ _ => .compile
  | .dependency _ _ _ => .dependency

def category : Reason → Category
  | .general _ => .general
  | .validation _ _ _ => .validation
  | .layout _ _ _ _ => .validation
  | .file _ _ => .file
  | .fileNotFound _ _ => .file
  | .fileAccess _ _ => .file
  | .format _ _ _ => .format
  | .parsing _ _ => .parsing
  | .rendering _ _ => .rendering
  | .outputWrite _ _ => .rendering
  | .compile _ _ _ _ _ => .rendering
  | .dependency _ _ _ => .dependency

def stage? : Reason → Option String
  | .rendering _ stage => stage
  | .outputWrite _ _ => some "file_write"
  | .compile _ _ _ _ _ => some "latex_compile"
  | _ => none

/-- An unnamed format is just not supported; the supported ones are listed when there are any. -/
def formatMessage (name : Option String) (supported : Option (List String)) : String :=
  match name with
  | none => "Format is not supported"
  | some "" => "Format is not supported"
  | some name =>
    s!"Unsupported format: '{name}'" ++ match supported with
      | none => ""
      | some [] => ""
      | some names => ". Supported formats: " ++ String.intercalate ", " names

def compileMessage (command : List String) (status : Option Int) : String :=
  let line := String.intercalate " " command
  s!"LaTeX compilation failed: `{line}`" ++ match status with
    | none => ""
    | some code => s!" exited with status {code}"

def dependencyMessage (purpose : String) (programs : List String) : String :=
  let quoted := String.intercalate " or " (programs.map fun p => s!"'{p}'")
  s!"{purpose} requires {quoted} to be installed and on PATH"

def message : Reason → String
  | .general m => m
  | .validation m _ _ => m
  | .layout dialect expected received m => m.getD
    (s!"{dialect} expected a context of type '{expected.title}' "
      ++ s!"but received '{received.title}'.")
  | .file m _ => m
  | .fileNotFound path m => m.getD s!"File not found: {path}"
  | .fileAccess path m => m.getD s!"Cannot access file: {path}"
  | .format name supported m => m.getD (formatMessage name supported)
  | .parsing m _ => m
  | .rendering m _ => m
  | .outputWrite path m => m.getD s!"Failed to write output file: {path}"
  | .compile command status _ _ m => m.getD (compileMessage command status)
  | .dependency purpose programs m => m.getD (dependencyMessage purpose programs)

end Reason

def message (f : Failure) : String := f.reason.message

def exitCode (f : Failure) : Nat := f.reason.category.exitCode

end Failure

end RichText
