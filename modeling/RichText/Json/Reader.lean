import RichText.Json.Token

/-!
Reading a JSON text. The tokens drive a machine whose stack holds the open arrays and objects; the
first token that the machine cannot take is the fault.
-/

set_option autoImplicit false
set_option relaxedAutoImplicit false

namespace RichText.Json

/-- An open array or object with its items so far, the last one first; an object waits for the value
of a name while it is `named`. -/
inductive Frame
  | array (items : List Json)
  | object (fields : List (String × Json))
  | named (fields : List (String × Json)) (name : String)

/-- What the next token may be; `closable` holds right behind an opening bracket. -/
inductive Expected
  | value (closable : Bool)
  | name (closable : Bool)
  | colon
  | comma
  | finish (result : Json)

def complete (v : Json) : List Frame → Expected × List Frame
  | .array items :: stack => (.comma, .array (v :: items) :: stack)
  | .named fields name :: stack => (.comma, .object (putField name v fields) :: stack)
  | stack => (.finish v, stack)

def unexpected (reason : Reason) (t : Placed) : Fault := ⟨reason, t.offset⟩

def step (expected : Expected) (stack : List Frame) (t : Placed) :
    Except Fault (Expected × List Frame) :=
  match expected with
  | .value closable => match t.token with
    | .openArray => .ok (.value true, .array [] :: stack)
    | .openObject => .ok (.name true, .object [] :: stack)
    | .text s => .ok (complete (.text s) stack)
    | .literal j => .ok (complete j stack)
    | .broken fault => .error fault
    | .closeArray => match closable, stack with
      | true, .array items :: stack => .ok (complete (.array items.reverse) stack)
      | _, _ => .error (unexpected .expectedValue t)
    | _ => .error (unexpected .expectedValue t)
  | .name closable => match t.token, stack with
    | .text s, .object fields :: stack => .ok (.colon, .named fields s :: stack)
    | .broken fault, _ => .error fault
    | .closeObject, .object fields :: stack =>
      if closable then .ok (complete (.object fields) stack)
      else .error (unexpected .expectedName t)
    | _, _ => .error (unexpected .expectedName t)
  | .colon => match t.token with
    | .colon => .ok (.value false, stack)
    | _ => .error (unexpected .expectedColon t)
  | .comma => match t.token, stack with
    | .comma, .array _ :: _ => .ok (.value false, stack)
    | .comma, .object _ :: _ => .ok (.name false, stack)
    | .closeArray, .array items :: stack => .ok (complete (.array items.reverse) stack)
    | .closeObject, .object fields :: stack => .ok (complete (.object fields) stack)
    | _, _ => .error (unexpected .expectedComma t)
  | .finish _ => .error (unexpected .extraData t)

/-- Runs the machine; the token `finish` is taken only behind the whole document. -/
def run (expected : Expected) (stack : List Frame) : List Placed → Except Fault Json
  | [] => .error ⟨.expectedValue, 0⟩
  | t :: rest => match expected, t.token with
    | .finish j, .finish => .ok j
    | _, _ => match step expected stack t with
      | .error fault => .error fault
      | .ok (next, stack) => run next stack rest

def parse (text : String) : Except Fault Json :=
  match text.toList with
  | '\uFEFF' :: _ => .error ⟨.byteOrderMark, 0⟩
  | cs => run (.value false) [] (tokens 0 0 cs)

def Reason.message : Reason → String
  | .byteOrderMark => "Unexpected UTF-8 BOM (decode using utf-8-sig)"
  | .expectedValue => "Expecting value"
  | .expectedName => "Expecting property name enclosed in double quotes"
  | .expectedColon => "Expecting ':' delimiter"
  | .expectedComma => "Expecting ',' delimiter"
  | .extraData => "Extra data"
  | .unterminatedText => "Unterminated string starting at"
  | .controlCharacter => "Invalid control character at"
  | .badEscape => "Invalid \\escape"
  | .badUnicodeEscape => "Invalid \\uXXXX escape"

/-- The message counts lines and columns from one and characters from zero. -/
def Fault.message (fault : Fault) (text : String) : String :=
  let before := text.toList.take fault.offset
  let line := before.count '\n' + 1
  let column := (before.reverse.takeWhile (· ≠ '\n')).length + 1
  s!"{fault.reason.message}: line {line} column {column} (char {fault.offset})"

end RichText.Json
