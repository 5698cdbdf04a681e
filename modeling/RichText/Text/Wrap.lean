import RichText.Text.Blank
import RichText.Text.Cluster
import RichText.Text.Lines

/-!
Messages for a screen of a given width. A line is broken before a word that no longer fits; blanks
stay behind the word before them, and a word wider than the screen is cut.
-/

set_option autoImplicit false
set_option relaxedAutoImplicit false

namespace RichText.Text

/-- The bell, backspaces, vertical tabs, form feeds and carriage returns are not shown. -/
def isShown (c : Char) : Bool :=
  c.toNat ≠ 7 && c.toNat ≠ 8 && c.toNat ≠ 11 && c.toNat ≠ 12 && c.toNat ≠ 13

/-- Fills the tabs between the parts of a line up to the next multiple of eight columns, from the
given column on. -/
def fillTabs (column : Nat) : List (List Char) → List Char
  | [] => []
  | [last] => last
  | part :: more =>
    let filled := column + cells (part ++ [' '])
    let fill := (8 - filled % 8) % 8
    part ++ ' ' :: List.replicate fill ' ' ++ fillTabs (filled + fill) more

/-- The words of a line, each with the blanks behind it, the first also with those before it. -/
def wordsOf (line : List Char) : List (List Char) :=
  match line.splitBy fun a b => !(isBlank a && !isBlank b) with
  | [] => []
  | first :: rest =>
    if first.all isBlank then match rest with
      | [] => []
      | second :: more => (first ++ second) :: more
    else first :: rest

def trimEnd (cs : List Char) : List Char := (cs.reverse.dropWhile isBlank).reverse

/-- Cuts a word into pieces of at most `width` cells; the first piece has `used` cells already. -/
def chop (width : Nat) : Nat → List Cluster → List (List Char)
  | _, [] => [[]]
  | used, g :: rest =>
    if used + g.width ≤ width then
      match chop width (used + g.width) rest with
      | [] => [g.chars]
      | piece :: more => (g.chars ++ piece) :: more
    else
      match chop width g.width rest with
      | [] => [[], g.chars]
      | piece :: more => [] :: (g.chars ++ piece) :: more

/-- Sets words into lines of `width` cells, behind the line begun so far, which has `used` cells. -/
def setWords (width : Nat) (line : List Char) (used : Nat) : List (List Char) → List (List Char)
  | [] => [line]
  | word :: rest =>
    let needed := cells (trimEnd word)
    if used + needed ≤ width then setWords width (line ++ word) (used + cells word) rest
    else
      let before := if line.isEmpty then [] else [line]
      if needed ≤ width then before ++ setWords width word (cells word) rest
      else
        let pieces := chop width 0 (clusters word)
        let last := pieces.getLast?.getD []
        before ++ pieces.dropLast ++ setWords width last (cells last) rest

/-- Drops blanks at the end of a line as far as it is longer than `width`. -/
def cropBlanks (width : Nat) (line : List Char) : List Char :=
  let blanks := line.length - (trimEnd line).length
  line.take (line.length - min blanks (line.length - width))

/-- The line cut to `width` cells; half of a wide character gives way to a space. -/
def cut : Nat → List Cluster → List Char
  | _, [] => []
  | width, g :: rest =>
    if g.width ≤ width then g.chars ++ cut (width - g.width) rest
    else List.replicate width ' '

def wrapLine (width : Nat) (line : List Char) : List (List Char) :=
  let line := fillTabs 0 (cutAt '\t' line)
  let lines := match wordsOf line with
    | [] => [line]
    | words => setWords width [] 0 words
  lines.map fun l =>
    let l := cropBlanks width l
    if cells l ≤ width then l else cut width (clusters l)

def wrapped (width : Nat) (message : String) : String :=
  let lines := (linesOf (message.toList.filter isShown)).flatMap (wrapLine width)
  String.ofList (lines.flatMap (· ++ ['\n']))

end RichText.Text
