import RichText.Text.Blank
import RichText.Text.Quoted

/-!
Options among the arguments of a command. An option has one-letter names behind one hyphen and
longer names behind two. A long name may be cut short as long as it is clear; a value stands
behind an equals sign, behind a one-letter name, or in the next argument; one-letter names of
options that take no value may share a hyphen, with an equals sign behind the first or without.
-/

set_option autoImplicit false
set_option relaxedAutoImplicit false

namespace RichText.CommandLine

inductive UsageError
  | ambiguous (argument : String) (names : List String)
  | missingValue (option : List String)
  | unusedValue (option : List String) (value : String)
  | badChoice (argument : String) (value : String) (choices : List String)
  | required (argument : String)
  | unrecognized (arguments : List String)
  deriving DecidableEq, Repr

namespace UsageError

def optionTitle (names : List String) : String := String.intercalate "/" names

def message : UsageError → String
  | .ambiguous argument names =>
    let matching := String.intercalate ", " names
    s!"ambiguous option: {argument} could match {matching}"
  | .missingValue option => s!"argument {optionTitle option}: expected one argument"
  | .unusedValue option value =>
    s!"argument {optionTitle option}: ignored explicit argument {Text.quoted value}"
  | .badChoice argument value choices =>
    let list := String.intercalate ", " (choices.map Text.quoted)
    s!"argument {argument}: invalid choice: {Text.quoted value} (choose from {list})"
  | .required argument => s!"the following arguments are required: {argument}"
  | .unrecognized arguments =>
    let list := String.intercalate " " arguments
    s!"unrecognized arguments: {list}"

end UsageError

/-- The options of a command, in the order in which they are listed. -/
structure Grammar (ω : Type) where
  options : List ω
  names : ω → List String
  takesValue : ω → Bool

/-- What an argument is taken for. The text attached to an option stands behind its name in the same
argument, after an equals sign or not. -/
inductive Reading (ω : Type)
  | plain
  | separator
  | option (o : ω) (name : String) (attached : Option (List Char))
  | unknown

structure Token (ω : Type) where
  text : String
  reading : Reading ω

namespace Grammar

variable {ω : Type}

def spellings (g : Grammar ω) : List (String × ω) :=
  g.options.flatMap fun o => (g.names o).map fun n => (n, o)

def find? (g : Grammar ω) (name : List Char) : Option (String × ω) :=
  g.spellings.find? fun s => s.1.toList = name

/-- Cuts an argument at its first equals sign. -/
def cutSign (argument : List Char) : List Char × Option (List Char) :=
  let name := argument.takeWhile (· ≠ '=')
  match argument.drop name.length with
  | [] => (name, none)
  | _ :: text => (name, some text)

/-- The options that an argument can stand for, although it is no name as it stands. -/
def candidates (g : Grammar ω) (argument : List Char) : List (ω × String × Option (List Char)) :=
  if "--".toList.isPrefixOf argument then
    let (start, text) := cutSign argument
    (g.spellings.filter fun s => start.isPrefixOf s.1.toList).map fun s => (s.2, s.1, text)
  else
    (g.spellings.filter fun s => s.1.toList = argument.take 2).map fun s =>
      (s.2, s.1, some (argument.drop 2))

def allDigits (cs : List Char) : Bool := cs.all fun c => (Text.decimalDigit? c).isSome

/-- A negative number, whole or with a point before its last digits. A line feed may follow it. -/
def isNegativeNumber (argument : List Char) : Bool :=
  match argument with
  | '-' :: rest =>
    let number := if rest.getLast? = some '\n' then rest.dropLast else rest
    let whole := number.takeWhile (· ≠ '.')
    match number.drop whole.length with
    | [] => !whole.isEmpty && allDigits whole
    | _ :: digits => allDigits whole && !digits.isEmpty && allDigits digits
  | _ => false

def reading (g : Grammar ω) (argument : String) : Except UsageError (Reading ω) :=
  let cs := argument.toList
  if cs.head? ≠ some '-' then .ok .plain
  else match g.find? cs with
    | some (name, o) => .ok (.option o name none)
    | none =>
      if cs = ['-'] then .ok .plain
      else
        let (name, text) := cutSign cs
        match g.find? name, text with
        | some (name, o), some text => .ok (.option o name (some text))
        | _, _ => match g.candidates cs with
          | [] => .ok (if isNegativeNumber cs || cs.contains ' ' then .plain else .unknown)
          | [(o, name, attached)] => .ok (.option o name attached)
          | many => .error (.ambiguous argument (many.map (·.2.1)))

/-- What all arguments are taken for. Behind two hyphens all are plain. -/
def tokens (g : Grammar ω) : List String → Except UsageError (List (Token ω))
  | [] => .ok []
  | argument :: rest =>
    if argument = "--" then
      .ok (⟨argument, .separator⟩ :: rest.map fun a => ⟨a, .plain⟩)
    else do
      let r ← g.reading argument
      let others ← g.tokens rest
      .ok (⟨argument, r⟩ :: others)

structure Given (ω : Type) where
  options : List (ω × Option String)
  /-- Whether the last option takes the next argument as its value. -/
  usesNext : Bool := false

/-- The value that a text attached to an option gives. Two hyphens are taken for the separator even
here, so that they give none. -/
def attachedValue (text : List Char) : Option String :=
  if text = ['-', '-'] then none else some (String.ofList text)

def bare (g : Grammar ω) (next : Option String) (o : ω) : Except UsageError (Given ω) :=
  if g.takesValue o then match next with
    | some v => .ok { options := [(o, some v)], usesNext := true }
    | none => .error (.missingValue (g.names o))
  else .ok { options := [(o, none)] }

/-- An option with text attached: its value, or further one-letter names. -/
def withText (g : Grammar ω) (next : Option String) (o : ω) (isShort : Bool) :
    List Char → Except UsageError (Given ω)
  | [] =>
    if g.takesValue o then .ok { options := [(o, some "")] }
    else .error (.unusedValue (g.names o) "")
  | c :: rest =>
    let unused := Except.error (.unusedValue (g.names o) (String.ofList (c :: rest)))
    if g.takesValue o then .ok { options := [(o, attachedValue (c :: rest))] }
    else if !isShort then unused
    else match g.find? ['-', c] with
      | none => unused
      | some (_, p) => do
        let more ← match rest with
          | [] => g.bare next p
          | d :: text => g.withText next p true (d :: text)
        .ok { more with options := (o, none) :: more.options }

def given (g : Grammar ω) (next : Option String) (o : ω) (name : String)
    (attached : Option (List Char)) : Except UsageError (Given ω) :=
  match attached with
  | none => g.bare next o
  | some text => g.withText next o (!"--".toList.isPrefixOf name.toList) text

end Grammar

end RichText.CommandLine
