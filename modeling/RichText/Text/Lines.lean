/-!
Line ends: a carriage return, alone or before a line feed, ends a line as a line feed does.
-/

set_option autoImplicit false
set_option relaxedAutoImplicit false

namespace RichText.Text

def unifyLines : List Char → List Char
  | [] => []
  | '\r' :: '\n' :: rest => '\n' :: unifyLines rest
  | c :: rest => (if c = '\r' then '\n' else c) :: unifyLines rest

/-- The text of bytes in UTF-8 with its line ends unified; other bytes are no text. -/
def ofBytes? (bytes : ByteArray) : Option String :=
  (String.fromUTF8? bytes).map fun s => String.ofList (unifyLines s.toList)

def cutAt (mark : Char) : List Char → List (List Char)
  | [] => [[]]
  | c :: rest =>
    if c = mark then [] :: cutAt mark rest
    else match cutAt mark rest with
      | [] => [[c]]
      | part :: more => (c :: part) :: more

def linesOf (cs : List Char) : List (List Char) := cutAt '\n' cs

end RichText.Text
