import RichText.Markup.Rendering

/-!
The LaTeX dialect. Characters with a meaning of their own are written as commands; in the
destination of a link the characters that cannot stand there are percent-encoded.
-/

set_option autoImplicit false
set_option relaxedAutoImplicit false

namespace RichText

namespace Latex

def escapeChar : Char → List Char
  | '\\' => "\\textbackslash\x7b\x7d".toList
  | '{' => ['\\', '{']
  | '}' => ['\\', '}']
  | '$' => ['\\', '$']
  | '%' => ['\\', '%']
  | '&' => ['\\', '&']
  | '#' => ['\\', '#']
  | '_' => ['\\', '_']
  | '~' => "\\textasciitilde\x7b\x7d".toList
  | '^' => "\\textasciicircum\x7b\x7d".toList
  | c => [c]

def escape (cs : List Char) : List Char := cs.flatMap escapeChar

def escapeUrlChar : Char → List Char
  | '%' => ['\\', '%']
  | '#' => ['\\', '#']
  | '\\' => ['\\', '%', '5', 'C']
  | '{' => ['\\', '%', '7', 'B']
  | '}' => ['\\', '%', '7', 'D']
  | c => [c]

def escapeUrl (cs : List Char) : List Char := cs.flatMap escapeUrlChar

def command (name : String) (argument : List Char) : List Char :=
  '\\' :: name.toList ++ ['{'] ++ argument ++ ['}']

def wrap : Mark → List Char → List Char
  | .bold, t => command "textbf" t
  | .italic, t => command "textit" t
  | .link a, t =>
    command "href" (escapeUrl (LinkAttributes.destination a).toList) ++ ['{'] ++ t ++ ['}']

def itemStart (_ : Marker) : List Char := "\\item ".toList

/-- The name of the environment of a list and its optional argument: an ordered list states its
first ordinal unless that is one. -/
def environment : Marker → String × List Char
  | .bullet => ("itemize", [])
  | .ordinal n =>
    ("enumerate", if n = 1 then [] else "[start=".toList ++ (toString n).toList ++ [']'])

/-- An environment needs at least one item. -/
def frame (m : Marker) (items : List Char) : List Char :=
  if items.isEmpty then []
  else
    let (name, options) := environment m
    command "begin" name.toList ++ options ++ ['\n'] ++ items ++ command "end" name.toList ++ ['\n']

def documentClass : String := "article"

def packages : List String := ["hyperref", "enumitem"]

def document (body : List Char) : List Char :=
  command "documentclass" documentClass.toList ++ ['\n', '\n']
    ++ packages.flatMap (fun p => command "usepackage" p.toList ++ ['\n']) ++ ['\n']
    ++ command "begin" "document".toList ++ ['\n', '\n']
    ++ body ++ command "end" "document".toList ++ ['\n']

end Latex

def Dialect.latex : Dialect where
  escape := Latex.escape
  wrap := Latex.wrap
  itemStart := Latex.itemStart
  frame := Latex.frame

end RichText
