import RichText.Markup.Rendering

/-!
The Markdown dialect: text stands as it is, strong text between double asterisks, emphasis between
single ones.
-/

set_option autoImplicit false
set_option relaxedAutoImplicit false

namespace RichText

namespace Markdown

def wrap : Mark → List Char → List Char
  | .bold, t => ['*', '*'] ++ t ++ ['*', '*']
  | .italic, t => ['*'] ++ t ++ ['*']
  | .link a, t => ['['] ++ t ++ [']', '('] ++ (LinkAttributes.destination a).toList ++ [')']

/-- What is in front of an item. There is no limit to the digits of an ordinal, where a system may
refuse to write more than 4300. -/
def itemStart : Marker → List Char
  | .bullet => ['-', ' ']
  | .ordinal n => (toString n).toList ++ ['.', ' ']

end Markdown

/-- A list in Markdown is the lines of its items and nothing around them. -/
def Dialect.markdown : Dialect where
  escape := id
  wrap := Markdown.wrap
  itemStart := Markdown.itemStart
  frame _ items := items

end RichText
