import RichText.CommandLine
import Std.Time

/-!
The program on a real system. The places that a run looks at are read first, the run itself is pure,
and what it changed is written back. Engines are not started from here, so that none is found.
-/

set_option autoImplicit false
set_option relaxedAutoImplicit false

namespace RichText.Main

def observe (files : Files) (l : Location) : IO Files := do
  if l = [] || World.holdsNul l.toString then return files
  try
    let real ← IO.FS.realPath l.toString
    if ← real.isDir then return files.put l .directory
    else return files.put l (.file (← IO.FS.readBinFile l.toString))
  catch _ => return files

/-- Writes the places of `after` that are not as they were before. -/
def writeBack (before after : Files) : IO Unit := do
  for (l, e) in after.entries do
    if before.entry? l ≠ some e then
      match e with
      | .directory => IO.FS.createDirAll l.toString
      | .file content => IO.FS.writeBinFile l.toString content

def runProgram (arguments : List String) : IO UInt32 := do
  let here := Files.lexical [] (Path.ofString (← IO.currentDir).toString).parts
  let files ← (CommandLine.places here arguments).foldlM observe {}
  let now ← Std.Time.PlainDateTime.now
  let world : World := { files, here, time := now.format "uuuu-MM-dd HH:mm:ss" }
  let (result, world) := (CommandLine.run arguments).run.run world
  writeBack files world.files
  IO.print world.stdout
  IO.eprint world.stderr
  match result with
  | .ok code => return UInt32.ofNat code
  | .error (.failure f) =>
    IO.eprintln f.message
    return 1
  | .error (.fault f) =>
    IO.eprintln f.message
    return 1

end RichText.Main

def main (arguments : List String) : IO UInt32 := RichText.Main.runProgram arguments
