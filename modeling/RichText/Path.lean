import RichText.Text.Quoted

/-!
Paths of files. A path is a root and the parts below it; empty parts and single dots are dropped
when it is read, double dots are kept. The last part is the name, and the name may end in a
suffix.
-/

set_option autoImplicit false
set_option relaxedAutoImplicit false

namespace RichText

/-- Where a path starts. A root spelled with exactly two slashes is kept apart from the usual one.
-/
inductive Path.Root
  | relative
  | absolute
  | doubled
  deriving DecidableEq, Repr

structure Path where
  root : Path.Root
  parts : List (List Char)
  deriving DecidableEq, Repr

namespace Path

def Root.spelling : Root → List Char
  | .relative => []
  | .absolute => ['/']
  | .doubled => ['/', '/']

def Root.above : Root → String
  | .doubled => "/"
  | _ => ""

def rootOf : List Char → Root
  | '/' :: '/' :: '/' :: _ => .absolute
  | '/' :: '/' :: _ => .doubled
  | '/' :: _ => .absolute
  | _ => .relative

def segments : List Char → List (List Char)
  | [] => [[]]
  | c :: rest =>
    if c = '/' then [] :: segments rest
    else match segments rest with
      | [] => [[c]]
      | s :: more => (c :: s) :: more

/-- A piece that stands for no step is neither a part nor counted. -/
def isPart (s : List Char) : Bool := s ≠ [] && s ≠ ['.']

def ofChars (s : List Char) : Path := { root := rootOf s, parts := (segments s).filter isPart }

def ofString (s : String) : Path := ofChars s.toList

def joined : List (List Char) → List Char
  | [] => []
  | [s] => s
  | s :: t :: rest => s ++ '/' :: joined (t :: rest)

/-- The spelling of a path; the empty path is a single dot. -/
def chars (p : Path) : List Char :=
  match p.root.spelling ++ joined p.parts with
  | [] => ['.']
  | s => s

def toString (p : Path) : String := String.ofList p.chars

def name (p : Path) : List Char := p.parts.getLast?.getD []

/-- The path without its last part; a root is its own parent. -/
def parent (p : Path) : Path := { p with parts := p.parts.dropLast }

def child (p : Path) (name : List Char) : Path := { p with parts := p.parts ++ [name] }

/-- Cuts a name before its last dot, unless the dot stands first or last in the name. -/
def cutSuffix (name : List Char) : List Char × List Char :=
  let tail := name.reverse.takeWhile (· ≠ '.')
  let front := name.reverse.dropWhile (· ≠ '.')
  match tail, front with
  | _ :: _, _ :: _ :: _ => (front.tail.reverse, '.' :: tail.reverse)
  | _, _ => (name, [])

def stem (p : Path) : List Char := (cutSuffix p.name).1

def suffix (p : Path) : List Char := (cutSuffix p.name).2

/-- The path with another suffix; a path without a name has none to change. -/
def withSuffix? (suffix : List Char) (p : Path) : Option Path :=
  if p.name = [] then none else some (p.parent.child (p.stem ++ suffix))

def emptyNameMessage (p : Path) : String :=
  s!"PosixPath({Text.quoted p.toString}) has an empty name"

end Path

end RichText
