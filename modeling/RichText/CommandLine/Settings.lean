import RichText.CommandLine.Pages
import RichText.Logging
import RichText.Markup.Target

/-!
Reading the arguments of the program as the settings of a build.
-/

set_option autoImplicit false
set_option relaxedAutoImplicit false

namespace RichText.CommandLine

inductive Stop
  | help (page : Page)
  | version
  | usage (page : Page) (error : UsageError)
  deriving DecidableEq, Repr

/-- What the options of a build say. A target or a level is missing where the separator was given
for its name. -/
structure Settings where
  pdf : Bool := true
  directory : Option String := none
  target : Option Target := some .latex
  level : Option Int := some Level.warning
  logFile : Option String := none
  verbose : Bool := false
  traced : Bool := false
  deriving DecidableEq, Repr

inductive ProgramOption
  | help
  | version
  deriving DecidableEq, Repr

def programGrammar : Grammar ProgramOption where
  options := [.help, .version]
  names := fun o => match o with
    | .help => ["-h", "--help"]
    | .version => ["--version"]
  takesValue := fun _ => false

inductive BuildOption
  | help
  | noPdf
  | output
  | format
  | logLevel
  | logFile
  | verbose
  | trace
  deriving DecidableEq, Repr

def buildGrammar : Grammar BuildOption where
  options := [.help, .noPdf, .output, .format, .logLevel, .logFile, .verbose, .trace]
  names := fun o => match o with
    | .help => ["-h", "--help"]
    | .noPdf => ["--no-pdf"]
    | .output => ["-o", "--output"]
    | .format => ["-f", "--format"]
    | .logLevel => ["--log-level"]
    | .logFile => ["--log-file"]
    | .verbose => ["-v", "--verbose"]
    | .trace => ["--trace"]
  takesValue := fun o => match o with
    | .output => true
    | .format => true
    | .logLevel => true
    | .logFile => true
    | _ => false

def levelChoices : List String := ["DEBUG", "INFO", "WARNING", "ERROR"]

def choose (o : BuildOption) (value : String) (choices : List String) : Except Stop String :=
  if choices.contains value then .ok value
  else
    let title := UsageError.optionTitle (buildGrammar.names o)
    .error (.usage .build (.badChoice title value choices))

/-- The settings with one more option. Of two values of an option the later one counts. -/
def Settings.take (s : Settings) (o : BuildOption) (value : Option String) :
    Except Stop Settings :=
  match o, value with
  | .help, _ => .error (.help .build)
  | .noPdf, _ => .ok { s with pdf := false }
  | .output, v => .ok { s with directory := v }
  | .format, none => .ok { s with target := none }
  | .format, some v => do
    let name ← choose .format v Target.names
    .ok { s with target := Target.ofName? name }
  | .logLevel, none => .ok { s with level := none }
  | .logLevel, some v => do
    let name ← choose .logLevel v levelChoices
    .ok { s with level := (Level.ofName name).toOption }
  | .logFile, v => .ok { s with logFile := v }
  | .verbose, _ => .ok { s with verbose := true }
  | .trace, _ => .ok { s with traced := true }

/-- The source and the settings read so far, and the arguments that nothing takes. -/
structure Request where
  source : Option String := none
  settings : Settings := {}
  unused : List String := []
  deriving DecidableEq, Repr

def nextPlain? {ω : Type} : List (Token ω) → Option String
  | ⟨text, .plain⟩ :: _ => some text
  | _ => none

def nextIsSeparator {ω : Type} : List (Token ω) → Bool
  | ⟨_, .separator⟩ :: _ => true
  | _ => false

namespace Request

def leave (r : Request) (argument : String) : Request := { r with unused := r.unused ++ [argument] }

def take (r : Request) (g : Grammar.Given BuildOption) : Except Stop Request := do
  let settings ← g.options.foldlM (fun s o => s.take o.1 o.2) r.settings
  .ok { r with settings }

/-- Reads the arguments of the command in their order. The first plain one is the source, and a
separator beside it goes with it. With `skip` the first argument is taken already. -/
def read (r : Request) (skip : Bool) : List (Token BuildOption) → Except Stop Request
  | [] => .ok r
  | t :: rest =>
    if skip then r.read false rest
    else match t.reading, r.source with
      | .plain, none => { r with source := some t.text }.read (nextIsSeparator rest) rest
      | .plain, some _ => (r.leave t.text).read false rest
      | .separator, none =>
        if rest.isEmpty then .ok (r.leave t.text) else r.read false rest
      | .separator, some _ => (r.leave t.text).read false rest
      | .unknown, _ => (r.leave t.text).read false rest
      | .option o name attached, _ => do
        let g ← (buildGrammar.given (nextPlain? rest) o name attached).mapError (.usage .build)
        let r ← r.take g
        r.read g.usesNext rest

def ofArguments (arguments : List String) : Except Stop Request := do
  let tokens ← (buildGrammar.tokens arguments).mapError (.usage .build)
  let r ← Request.read {} false tokens
  if r.source.isNone then throw (.usage .build (.required "resume-path"))
  .ok r

end Request

/-- The command among the arguments of the program, with all that stands behind it, and the
arguments before it that nothing takes. A separator before the command is taken for the command. -/
def findCommand (unused : List String) :
    List (Token ProgramOption) → Except Stop (List String × Option (String × List String))
  | [] => .ok (unused, none)
  | t :: rest =>
    match t.reading with
    | .plain => .ok (unused, some (t.text, rest.map Token.text))
    | .separator =>
      if rest.isEmpty then .ok (unused ++ [t.text], none)
      else .ok (unused, some (t.text, rest.map Token.text))
    | .unknown => findCommand (unused ++ [t.text]) rest
    | .option o name attached => do
      let g ← (programGrammar.given (nextPlain? rest) o name attached).mapError (.usage .program)
      match g.options with
      | [] => findCommand unused rest
      | (.help, _) :: _ => .error (.help .program)
      | (.version, _) :: _ => .error .version

def settings (arguments : List String) : Except Stop (String × Settings) := do
  let tokens ← (programGrammar.tokens arguments).mapError (.usage .program)
  let (unused, command) ← findCommand [] tokens
  match command with
  | none => throw (.usage .program (.required "command"))
  | some (name, rest) =>
    if name ≠ "build" then throw (.usage .program (.badChoice "command" name ["build"]))
    let r ← Request.ofArguments rest
    match unused ++ r.unused with
    | [] => .ok (r.source.getD "", r.settings)
    | unknown => throw (.usage .program (.unrecognized unknown))

end RichText.CommandLine
