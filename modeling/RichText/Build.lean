import RichText.Build.Compile
import RichText.Build.Source
import RichText.Text.Tags

/-!
Building a source: its tree is read, written in the target format, and compiled on demand.
-/

set_option autoImplicit false
set_option relaxedAutoImplicit false

namespace RichText.Build

/-- What is written for a tree: the Markdown as it is, the LaTeX as a document of its own. -/
def fileText (t : Target) (body : List Char) : String :=
  match t with
  | .markdown => String.ofList body
  | .latex => String.ofList (Latex.document body)

def refusal (out : Path) (e : SystemError) (place : Path) : Failure where
  reason := .outputWrite out.toString none
  cause := some (e.message place.toString)

def makeDirectory (out d : Path) : Work Unit := do
  let w ← get
  if World.holdsNul d.toString then throw (.fault .nulInPath)
  else
    let (files, refused) := w.files.makePath (World.start w.here d.root) d
    set { w with files }
    match refused with
    | none => pure ()
    | some e => Work.fail (refusal out e d)

def writeText (out : Path) (text : String) : Work Unit := do
  let w ← get
  if World.holdsNul out.toString then throw (.fault .nulInPath)
  else match (w.files.walkPath (World.start w.here out.root) out).bind fun l =>
      w.files.write l text.toUTF8 with
    | .ok files => set { w with files }
    | .error e => Work.fail (refusal out e out)

/-- Writes a text below the directories of a path, which are made where a directory is given. -/
def writeOutput (directory : Option Path) (out : Path) (text : String) : Work Unit := do
  match directory with
  | none => pure ()
  | some d => makeDirectory out d
  writeText out text

def generate (source : String) (n : Node) (target : String) (directory : Option String) :
    Work Path := do
  let out ← Work.ofFailure (output source target directory)
  let t ← Work.ofFailure (Target.ofName target)
  let r ← Work.ofFailure (t.render none n)
  r.skipped.forM fun k => Work.log .markup Level.debug (skippedMessage k)
  writeOutput (directory? directory) out (fileText t r.text)
  Work.log .build Level.info s!"Wrote {out.toString}"
  pure out

def compileOutput (source : String) (directory : Option String) (out : Path) : Work Path := do
  let c ← latexCommand source directory
  let line := String.ofList (Text.shownText (String.intercalate " " c.line).toList)
  Work.status s!"Generating PDF file with command: `{line}`..."
  let _ ← compile c
  Work.status "Generated PDF file successfully."
  pure ((pdfPath? out).getD out)

def reportRoot (n : Node) : Work Unit :=
  if n.kind = .doc then pure ()
  else Work.log .build Level.debug
    s!"Root node is '{n.kind.tag}', not 'doc'; rendering it as-is"

/-- Ends a build once its output is written. Only a LaTeX output is compiled. -/
def finish (source : String) (t : Target) (pdf : Bool) (directory : Option String) (out : Path) :
    Work Path := do
  match t, pdf with
  | .markdown, _ =>
    Work.status "Generated markdown file successfully."
    pure out
  | .latex, false =>
    Work.status "Generated TeX file successfully."
    pure out
  | .latex, true => compileOutput source directory out

def build (source target : String) (pdf : Bool) (directory : Option String) : Work Path := do
  let t ← Work.ofFailure (Target.ofName target)
  let w ← get
  let n ← Work.ofExcept (load w.files w.here source)
  reportRoot n
  let out ← generate source n target directory
  finish source t pdf directory out

end RichText.Build
