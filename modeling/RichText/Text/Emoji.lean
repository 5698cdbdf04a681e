import RichText.Text.Blank
import RichText.Text.Lines
import RichText.Text.Lower
import RichText.Text.Pictures

/-!
Pictures for their names in a text. A name stands between colons, in capital or small letters; the
form of its picture may follow it behind a hyphen.
-/

set_option autoImplicit false
set_option relaxedAutoImplicit false

namespace RichText.Text

def pictureForms : List (String × Char) := [("-text", '\ufe0e'), ("-emoji", '\ufe0f')]

def pictureOf? (name : List Char) : Option (List Char) :=
  match pictureForms.find? fun f => f.1.toList.isSuffixOf name with
  | some (form, selector) =>
    let plain := name.take (name.length - form.length)
    (picture? (String.ofList (lowered plain))).map fun p => p.toList ++ [selector]
  | none => (picture? (String.ofList (lowered name))).map String.toList

/-- The text from a colon on, given by the parts between this colon and the later ones. The colons
around a name without blanks belong to it even where it names no picture. -/
def picturesFrom : List (List Char) → List Char
  | [] => []
  | [last] => ':' :: last
  | name :: next :: more =>
    if name.any isBlank then ':' :: name ++ picturesFrom (next :: more)
    else (pictureOf? name).getD (':' :: name ++ [':']) ++ next ++ picturesFrom more

def withPictures (cs : List Char) : List Char :=
  match cutAt ':' cs with
  | [] => []
  | first :: rest => first ++ picturesFrom rest

end RichText.Text
