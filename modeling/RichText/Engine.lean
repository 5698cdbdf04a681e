import RichText.Files

/-!
Engines that make a document of a written file. An engine is a program found by its name; what it
does to the files, what it prints and the status it ends with are its own.
-/

set_option autoImplicit false
set_option relaxedAutoImplicit false

namespace RichText

/-- What a run of an engine leaves: the files, the status and the bytes of its two streams. -/
structure EngineRun where
  files : Files
  status : Int
  stdout : ByteArray
  stderr : ByteArray

/-- A program is run with its arguments in a directory. A broken one is found but cannot be started;
one that may not be run is not found. -/
inductive Engine
  | program (run : List String → Location → Files → EngineRun)
  | broken
  | forbidden

abbrev Engines := List (String × Engine)

namespace Engines

def get? (e : Engines) (name : String) : Option Engine := (e.find? (·.1 = name)).map (·.2)

def has (e : Engines) (name : String) : Bool :=
  match e.get? name with
  | some (.program _) => true
  | some .broken => true
  | some .forbidden => false
  | none => false

end Engines

end RichText
