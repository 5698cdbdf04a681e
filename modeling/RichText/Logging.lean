import RichText.Files

/-!
Log records, the handlers that write them, and what a configuration lets through. The records of the
library go to its own handlers; before the first configuration, and for loggers of others, warnings
and worse are shown bare.
-/

set_option autoImplicit false
set_option relaxedAutoImplicit false

namespace RichText

namespace Level

def debug : Int := 10
def info : Int := 20
def warning : Int := 30
def error : Int := 40
def critical : Int := 50

/-- The names of levels; of two names of one level the first is written. -/
def names : List (String × Int) :=
  [("NOTSET", 0), ("DEBUG", debug), ("INFO", info), ("WARNING", warning), ("ERROR", error),
    ("CRITICAL", critical), ("WARN", warning), ("FATAL", critical)]

def name (level : Int) : String :=
  match names.find? fun n => n.2 = level with
  | some n => n.1
  | none => s!"Level {level}"

/-- The capitals of a letter as far as a name can hold them; some letters outside the basic alphabet
have capitals in it. -/
def capitals (c : Char) : List Char :=
  if c = 'ı' then ['I']
  else if c = 'ſ' then ['S']
  else if c = '\ufb05' || c = '\ufb06' then ['S', 'T']
  else [c.toUpper]

/-- A name of a level that stands for something else. -/
inductive Error
  | notNamed (text : String)
  | notAName (display : String)
  deriving DecidableEq, Repr

def Error.message : Error → String
  | .notNamed text => s!"Unknown level: {Text.quoted text}"
  | .notAName display => s!"Level not an integer or a valid string: {display}"

def basicLayout : String := "%(levelname)s:%(name)s:%(message)s"

/-- The layouts by the mark that their fields are written with. -/
def layoutsDisplay : String :=
  "\x7b'%': (<class 'logging.PercentStyle'>, '" ++ basicLayout ++ "'), "
    ++ "'\x7b': (<class 'logging.StrFormatStyle'>, "
    ++ "'\x7blevelname\x7d:\x7bname\x7d:\x7bmessage\x7d'), "
    ++ "'$': (<class 'logging.StringTemplateStyle'>, "
    ++ "'$\x7blevelname\x7d:$\x7bname\x7d:$\x7bmessage\x7d')\x7d"

/-- The level of a name in any case. A name that stands for nothing is that of `INFO`; two names
stand for layouts, which are no levels. -/
def ofName (s : String) : Except Error Int :=
  let capitals := String.ofList (s.toList.flatMap capitals)
  if capitals = "BASIC_FORMAT" then .error (.notNamed basicLayout)
  else if capitals = "_STYLES" then .error (.notAName layoutsDisplay)
  else match names.find? fun n => n.1 = capitals with
    | some n => .ok n.2
    | none => .ok info

end Level

inductive Logger
  | library
  | commandLine
  | build
  | markup
  deriving DecidableEq, Repr

def Logger.name : Logger → String
  | .library => "resumedoc"
  | .commandLine => "resumedoc.cli"
  | .build => "resumedoc.cli.build"
  | .markup => "resumedoc.codegen.base"

/-- A record; `detail` is what is known about a failure behind it. -/
structure Record where
  logger : String
  level : Int
  message : String
  detail : Option String := none
  deriving DecidableEq, Repr

namespace Record

def text (r : Record) : String :=
  match r.detail with
  | none => r.message
  | some d => s!"{r.message}\n{d}"

end Record

inductive Sink
  | screen
  | file (location : Location)
  deriving DecidableEq, Repr

/-- Writes the records of its level and above to a sink; a traced record carries the time and the
logger. -/
structure Handler where
  level : Int
  traced : Bool
  sink : Sink
  deriving DecidableEq, Repr

def Handler.line (h : Handler) (time : String) (r : Record) : String :=
  if h.traced then s!"[{time}] [{Level.name r.level}] [{r.logger}] {r.text}\n"
  else s!"{Level.name r.level}: {r.text}\n"

structure Logging where
  level : Int := 0
  handlers : List Handler := []
  used : List (List Char) := []
  deriving DecidableEq, Repr

namespace Logging

/-- A name up to its last dot, if there is something in front of the dot. -/
def cutName? (name : List Char) : Option (List Char) :=
  match name.reverse.dropWhile (· ≠ '.') with
  | _ :: c :: rest => some (c :: rest).reverse
  | _ => none

/-- The names above a name, the nearest first. Of two dots in a row only the last one separates. -/
def namesAbove (name : List Char) : Nat → List (List Char)
  | 0 => []
  | steps + 1 => match cutName? name with
    | none => []
    | some above => above :: namesAbove above.dropLast steps

/-- Whether a logger is that of the library or below it. What is above a logger is the nearest one
among those in use. -/
def belongs (l : Logging) (name : List Char) : Nat → Bool
  | 0 => false
  | steps + 1 =>
    let own := Logger.library.name.toList
    let above? := (namesAbove name name.length).find? fun n => n = own || l.used.contains n
    name = own || match above? with
      | none => false
      | some above => belongs l above steps

def isOwn (l : Logging) (r : Record) : Bool :=
  l.belongs r.logger.toList (r.logger.toList.length + 1)

/-- The least level that passes: that of the library for its own records if it has one, and
`WARNING` for all others. -/
def threshold (l : Logging) (r : Record) : Int :=
  if l.isOwn r && l.level ≠ 0 then l.level else Level.warning

/-- A record without a positive level never passes. -/
def passes (l : Logging) (r : Record) : Bool := 0 < r.level && l.threshold r ≤ r.level

/-- What a record is written as, and where. Where no handler stands the bare text of a warning or
worse is shown. -/
def lines (l : Logging) (time : String) (r : Record) : List (Sink × String) :=
  if !l.passes r then []
  else match if l.isOwn r then l.handlers else [] with
    | [] => if Level.warning ≤ r.level then [(.screen, s!"{r.text}\n")] else []
    | handlers => (handlers.filter (·.level ≤ r.level)).map fun h => (h.sink, h.line time r)

/-- A configuration with a screen of its own; the handlers before it are dropped. -/
def reset (l : Logging) (level : Int) (traced : Bool) : Logging :=
  { l with level, handlers := [{ level, traced, sink := .screen }] }

/-- A logger is in use once something is logged on it. -/
def use (l : Logging) (logger : String) : Logging :=
  if l.used.contains logger.toList then l else { l with used := logger.toList :: l.used }

def addFile (l : Logging) (traced : Bool) (location : Location) : Logging :=
  { l with handlers := l.handlers ++ [{ level := l.level, traced, sink := .file location }] }

end Logging

end RichText
