import RichText.Text.CodeUnit
import RichText.Yaml.Timestamp

/-!
The tags of YAML and the kind that a plain scalar has by its characters alone.
-/

set_option autoImplicit false
set_option relaxedAutoImplicit false

namespace RichText.Yaml

/-- The address of a kind that every document knows. -/
def Tag.core (name : String) : String := "tag:yaml.org,2002:" ++ name

namespace Plain

def truths : List (String × Bool) :=
  [("yes", true), ("no", false), ("true", true), ("false", false), ("on", true), ("off", false)]

def capitalize (s : String) : String :=
  match s.toList with
  | [] => ""
  | c :: rest => String.ofList (c.toUpper :: rest)

/-- A word in lower case, capitalised or in upper case. -/
def isCased (word s : String) : Bool := s = word || s = capitalize word || s = word.toUpper

def isTruth (s : String) : Bool := truths.any fun t => isCased t.1 s

def isNull (s : String) : Bool := s = "" || s = "~" || isCased "null" s

def dropSign : List Char → List Char
  | '-' :: rest => rest
  | '+' :: rest => rest
  | cs => cs

def isDigitOr_ (c : Char) : Bool := c.isDigit || c = '_'

def afterDigits? : List Char → Option (List Char)
  | c :: rest => if c.isDigit then some (rest.dropWhile isDigitOr_) else none
  | [] => none

def isExponent : List Char → Bool
  | [] => true
  | e :: s :: d :: rest =>
    (e = 'e' || e = 'E') && (s = '-' || s = '+') && d.isDigit && rest.all Char.isDigit
  | _ => false

def afterGroups? : List Char → Option (List Char)
  | ':' :: a :: b :: rest =>
    if a.isDigit && a ≤ '5' && b.isDigit then
      match rest with
      | ':' :: _ => afterGroups? rest
      | _ => some rest
    else if a.isDigit then
      match b with
      | ':' => afterGroups? (b :: rest)
      | _ => some (b :: rest)
    else none
  | [':', a] => if a.isDigit then some [] else none
  | _ => none

def isPointed (cs : List Char) : Bool :=
  match afterDigits? (dropSign cs) with
  | some ('.' :: rest) => isExponent (rest.dropWhile isDigitOr_)
  | _ => false

/-- A point in front of the digits; it has no sign. -/
def isFraction : List Char → Bool
  | '.' :: rest => match afterDigits? rest with
    | some rest => isExponent rest
    | none => false
  | _ => false

def isSixtiesFloat (cs : List Char) : Bool :=
  match (afterDigits? (dropSign cs)).bind afterGroups? with
  | some ('.' :: rest) => rest.all isDigitOr_
  | _ => false

def isFloat (cs : List Char) : Bool :=
  isPointed cs || isFraction cs || isSixtiesFloat cs
    || (["inf", "Inf", "INF"].any fun w => dropSign cs = '.' :: w.toList)
    || (["nan", "NaN", "NAN"].any fun w => cs = '.' :: w.toList)

def isSixtiesInt : List Char → Bool
  | c :: rest => c ≠ '0' && match (afterDigits? (c :: rest)).bind afterGroups? with
    | some [] => true
    | _ => false
  | [] => false

def isInt (cs : List Char) : Bool :=
  match dropSign cs with
  | ['0'] => true
  | '0' :: 'b' :: d :: rest => (d :: rest).all fun c => c = '0' || c = '1' || c = '_'
  | '0' :: 'x' :: d :: rest => (d :: rest).all fun c => (Text.hexValue? c).isSome || c = '_'
  | '0' :: rest => rest.all fun c => ('0' ≤ c && c ≤ '7') || c = '_'
  | cs => afterDigits? cs = some [] || isSixtiesInt cs

/-- A date alone has two digits for its month and its day. -/
def isTimestamp (cs : List Char) : Bool :=
  match Timestamp.parse? cs with
  | none => false
  | some t => t.wide || t.clock.isSome

def dropLineFeed (cs : List Char) : List Char :=
  if cs.getLast? = some '\n' then cs.dropLast else cs

/-- The name of the kind of a plain scalar; one line feed at its end does not count. -/
def kindName (s : String) : String :=
  let cs := dropLineFeed s.toList
  let s := if s = "\n" then s else String.ofList cs
  if isTruth s then "bool"
  else if isFloat cs then "float"
  else if isInt cs then "int"
  else if s = "<<" then "merge"
  else if isNull s then "null"
  else if isTimestamp cs then "timestamp"
  else if s = "=" then "value"
  else if s = "!" || s = "&" || s = "*" then "yaml"
  else "str"

end Plain

def Tag.ofPlain (s : String) : String := Tag.core (Plain.kindName s)

end RichText.Yaml
