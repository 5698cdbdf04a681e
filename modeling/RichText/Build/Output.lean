import RichText.Markup.Target
import RichText.Path
import RichText.Tree.Read

/-!
Where the files of a build are: the format of a source by its suffix, and the output beside the
source or in a directory of its own.
-/

set_option autoImplicit false
set_option relaxedAutoImplicit false

namespace RichText

/-- The suffixes of sources with the format each stands for, in the order of messages. -/
def TextFormat.suffixes : List (String × TextFormat) :=
  [(".yaml", .yaml), (".yml", .yaml), (".json", .json)]

def TextFormat.ofSuffix? (suffix : List Char) : Option TextFormat :=
  (suffixes.find? fun s => s.1.toList = suffix).map (·.2)

def Target.suffix : Target → String
  | .markdown => ".md"
  | .latex => ".tex"

namespace Build

def unsupportedSource (suffix : String) : Failure :=
  let names := TextFormat.suffixes.map (·.1)
  let expected := String.intercalate ", " names
  let message := s!"Unsupported source file extension: '{suffix}'. Expected one of: {expected}"
  { reason := .format (some suffix) (some names) (some message) }

def sourceFormat (source : Path) : Except Failure TextFormat :=
  match TextFormat.ofSuffix? source.suffix with
  | some f => .ok f
  | none => .error (unsupportedSource (String.ofList source.suffix))

/-- The directory of the output; an empty text stands for none. -/
def directory? : Option String → Option Path
  | none => none
  | some "" => none
  | some s => some (Path.ofString s)

/-- The output of a source, in the directory of the source unless one is given. -/
def outputPath (t : Target) (directory : Option Path) (source : Path) : Path :=
  let name := source.stem ++ t.suffix.toList
  match directory with
  | some d => d.child name
  | none => source.parent.child name

/-- Where the output of a source is written. The suffix of the source is looked at before the name
of the target. -/
def output (source target : String) (directory : Option String) : Except Failure Path := do
  let path := Path.ofString source
  let _ ← sourceFormat path
  let t ← Target.ofName target
  .ok (outputPath t (directory? directory) path)

def pdfPath? (p : Path) : Option Path := p.withSuffix? ".pdf".toList

end Build

end RichText
