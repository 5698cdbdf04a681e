import RichText.Build.Output
import RichText.Text.Lines
import RichText.World

/-!
Reading the source of a build: the tree in a file whose suffix says how it is written.
-/

set_option autoImplicit false
set_option relaxedAutoImplicit false

namespace RichText.Build

/-- Where a path leads to, if something is there. A path on which the system finds no such thing
leads nowhere; any other refusal is a fault. -/
def find? (files : Files) (here : Location) (p : Path) : Except Problem (Option Location) :=
  if World.holdsNul p.toString then .ok none
  else match files.walkPath (World.start here p.root) p with
    | .ok l => .ok (if (files.entry? l).isSome then some l else none)
    | .error .missing => .ok none
    | .error .notDirectory => .ok none
    | .error e => .error (.fault (.system e p.toString))

/-- The problem that an error of reading is. Errors of the values in a text are failures only where
the text does not fit its tag. -/
def readProblem (p : Path) (e : ReadError) : Problem :=
  let invalid : Problem := .failure {
    reason := .parsing s!"Invalid document tree in {p.toString}: {e.message}" (some p.toString)
    cause := some e.message }
  match e with
  | .yaml (.value f) => match f.family with
    | .unfit => invalid
    | _ => .fault (.value f)
  | _ => invalid

/-- The text of a file; bytes that are no text cannot be read. -/
def readText (files : Files) (p : Path) (l : Location) : Except Problem String :=
  let refused (cause : Option String) : Problem :=
    .failure { reason := .fileAccess p.toString none, cause }
  match files.read l with
  | .error e => .error (refused (some (e.message p.toString)))
  | .ok bytes => match Text.ofBytes? bytes with
    | some text => .ok text
    | none => .error (refused none)

def load (files : Files) (here : Location) (source : String) : Except Problem Node := do
  let p := Path.ofString source
  let format ← (sourceFormat p).mapError .failure
  match ← find? files here p with
  | none => .error (.failure { reason := .fileNotFound p.toString none })
  | some l =>
    let text ← readText files p l
    (Node.read format .strict text).outcome.mapError (readProblem p)

end RichText.Build
