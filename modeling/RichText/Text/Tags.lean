import RichText.Text.Emoji

/-!
Text for a screen that knows tags in square brackets. Given text is shown as it is, tags as well;
yet a backslash before a bracket that opens no tag is dropped, and pictures take the place of their
names, tag by tag and between them.
-/

set_option autoImplicit false
set_option relaxedAutoImplicit false

namespace RichText.Text

def beginsTag (c : Char) : Bool :=
  ('a' ≤ c && c ≤ 'z') || c = '#' || c = '/' || c = '@'

/-- Cuts the text behind an opening bracket after the tag that it begins with. The text holds no
further opening bracket. -/
def cutTag? (cs : List Char) : Option (List Char × List Char) :=
  if cs.head?.any beginsTag then
    let tag := cs.takeWhile (· ≠ ']')
    match cs.drop tag.length with
    | [] => none
    | close :: rest => some (tag ++ [close], rest)
  else none

def dropBackslash (cs : List Char) : List Char :=
  if cs.getLast? = some '\\' then cs.dropLast else cs

/-- The tags and what is between them, behind plain text, given by the parts between the opening
brackets. -/
def tagPieces (plain : List Char) : List (List Char) → List (List Char)
  | [] => [plain]
  | part :: more =>
    match cutTag? part with
    | some (tag, rest) => plain :: ('[' :: tag) :: tagPieces rest more
    | none => tagPieces (dropBackslash plain ++ '[' :: part) more

def shownText (cs : List Char) : List Char :=
  match cutAt '[' cs with
  | [] => []
  | first :: rest => (tagPieces first rest).flatMap withPictures

end RichText.Text
