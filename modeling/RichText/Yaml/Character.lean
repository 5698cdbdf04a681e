/-!
Character classes of YAML text. A class of the next character also answers for the end of the text.
-/

set_option autoImplicit false
set_option relaxedAutoImplicit false

namespace RichText.Yaml

def isAllowed (c : Char) : Bool :=
  let n := c.toNat
  n = 9 || n = 10 || n = 13 || (0x20 ≤ n && n ≤ 0x7E) || n = 0x85 || (0xA0 ≤ n && n ≤ 0xD7FF)
    || (0xE000 ≤ n && n ≤ 0xFFFD) || 0x10000 ≤ n

def isBreak (c : Char) : Bool :=
  c = '\n' || c = '\r' || c = '\x85' || c = '\u2028' || c = '\u2029'

def isBlank (c : Char) : Bool := c = ' ' || c = '\t'

def isWord (c : Char) : Bool := c.isAlphanum || c = '-' || c = '_'

/-- The characters of a tag's address, the percent sign of an escape included. -/
def isAddress (c : Char) : Bool := c.isAlphanum || "-;/?:@&=+$,_.!~*'()[]%".toList.contains c

def endsLine (next : Option Char) : Bool := next.all isBreak

def endsWord (next : Option Char) : Bool := next.all fun c => isBreak c || c = ' '

def endsToken (next : Option Char) : Bool := next.all fun c => isBreak c || isBlank c

def isFlowMark (c : Char) : Bool := ",[]\x7b\x7d".toList.contains c

end RichText.Yaml
