import RichText.Path
import RichText.Text.Quoted

/-!
A tree of directories and files, and what the file system answers to a walk through it. A location
names a place by the names on the way down from the root. A walk goes through the tree step by step,
so that `a/../b` is reached only where `a` is a directory.
-/

set_option autoImplicit false
set_option relaxedAutoImplicit false

namespace RichText

/-- The names on the way down from the root. -/
abbrev Location := List (List Char)

def Location.toString (l : Location) : String := String.ofList ('/' :: Path.joined l)

inductive Entry
  | directory
  | file (content : ByteArray)

instance : DecidableEq Entry
  | .directory, .directory => isTrue rfl
  | .file x, .file y =>
    if h : x.data = y.data then isTrue (congrArg Entry.file (ByteArray.ext h))
    else isFalse fun e => h (congrArg ByteArray.data (Entry.file.inj e))
  | .directory, .file _ => isFalse nofun
  | .file _, .directory => isFalse nofun

/-- Everything below the root, each place once. -/
structure Files where
  entries : List (Location × Entry) := []

inductive SystemError
  | missing
  | badFormat
  | denied
  | exists
  | notDirectory
  | isDirectory
  | nameTooLong
  deriving DecidableEq, Repr

namespace SystemError

def number : SystemError → Nat
  | .missing => 2
  | .badFormat => 8
  | .denied => 13
  | .exists => 17
  | .notDirectory => 20
  | .isDirectory => 21
  | .nameTooLong => 36

def text : SystemError → String
  | .missing => "No such file or directory"
  | .badFormat => "Exec format error"
  | .denied => "Permission denied"
  | .exists => "File exists"
  | .notDirectory => "Not a directory"
  | .isDirectory => "Is a directory"
  | .nameTooLong => "File name too long"

def message (e : SystemError) (subject : String) : String :=
  s!"[Errno {e.number}] {e.text}: {Text.quoted subject}"

end SystemError

namespace Files

/-- What is at a location; the root is always a directory. -/
def entry? (f : Files) (l : Location) : Option Entry :=
  if l = [] then some .directory else (f.entries.find? fun e => e.1 = l).map (·.2)

def putEntry (l : Location) (e : Entry) : List (Location × Entry) → List (Location × Entry)
  | [] => [(l, e)]
  | (k, old) :: rest => if k = l then (k, e) :: rest else (k, old) :: putEntry l e rest

def put (f : Files) (l : Location) (e : Entry) : Files := { entries := putEntry l e f.entries }

/-- The file system takes names of at most 255 bytes. -/
def isTooLong (name : List Char) : Bool := 255 < (String.ofList name).utf8ByteSize

/-- One step of a walk; the place it leads to need not exist. -/
def step (f : Files) (l : Location) (name : List Char) : Except SystemError Location :=
  match f.entry? l with
  | none => .error .missing
  | some (.file _) => .error .notDirectory
  | some .directory =>
    if !Path.isPart name then .ok l
    else if name = ['.', '.'] then .ok l.dropLast
    else if isTooLong name then .error .nameTooLong
    else .ok (l ++ [name])

/-- The place that a walk from a location leads to; it need not exist. -/
def walk (f : Files) (l : Location) (names : List (List Char)) : Except SystemError Location :=
  names.foldlM f.step l

/-- The file system takes paths of less than 4096 bytes. -/
def isPathTooLong (path : String) : Bool := 4096 ≤ path.utf8ByteSize

/-- The place that a path leads to; a path that is too long is refused before any step. -/
def walkPath (f : Files) (start : Location) (p : Path) : Except SystemError Location :=
  if isPathTooLong p.toString then .error .nameTooLong else f.walk start p.parts

def read (f : Files) (l : Location) : Except SystemError ByteArray :=
  match f.entry? l with
  | none => .error .missing
  | some .directory => .error .isDirectory
  | some (.file content) => .ok content

/-- Writes a file; a directory is not overwritten. -/
def write (f : Files) (l : Location) (content : ByteArray) : Except SystemError Files :=
  match f.entry? l with
  | some .directory => .error .isDirectory
  | _ => .ok (f.put l (.file content))

def append (f : Files) (l : Location) (content : ByteArray) : Files :=
  match f.entry? l with
  | some .directory => f
  | some (.file old) => f.put l (.file (old ++ content))
  | none => f.put l (.file content)

/-- Makes the directories of a walk that are missing. What was made before a refusal stays. -/
def makeDirectories (f : Files) (l : Location) : List (List Char) → Files × Option SystemError
  | [] => (f, none)
  | name :: rest =>
    match f.step l name with
    | .error e => (f, some e)
    | .ok next => match f.entry? next with
      | some .directory => makeDirectories f next rest
      | some (.file _) => (f, some (if rest.isEmpty then .exists else .notDirectory))
      | none => makeDirectories (f.put next .directory) next rest

/-- Makes the directories of a path that are missing, none if the path is too long. -/
def makePath (f : Files) (start : Location) (p : Path) : Files × Option SystemError :=
  if isPathTooLong p.toString then (f, some .nameTooLong) else f.makeDirectories start p.parts

/-- The place that a walk leads to by its names alone, whatever is there. -/
def lexical (l : Location) (names : List (List Char)) : Location :=
  names.foldl (fun l name =>
    if !Path.isPart name then l
    else if name = ['.', '.'] then l.dropLast
    else l ++ [name]) l

/-- All places on the way of a walk by its names alone, from its start on. -/
def places (l : Location) : List (List Char) → List Location
  | [] => [l]
  | name :: rest => l :: places (lexical l [name]) rest

end Files

end RichText
