/-!
Named arguments and the parameters they are given to. The first argument that fits no parameter is
refused before a parameter without an argument is.
-/

set_option autoImplicit false
set_option relaxedAutoImplicit false

namespace RichText

structure Parameter where
  name : String
  isRequired : Bool := true
  deriving DecidableEq, Repr

/-- The owner of the parameters is part of each fault. -/
inductive ArgumentError
  | unexpected (owner name : String)
  | repeated (owner name : String)
  | missing (owner first : String) (others : List String)
  deriving DecidableEq, Repr

namespace ArgumentError

def listRest : List String → String
  | [] => ""
  | [last] => s!", and '{last}'"
  | name :: rest => s!", '{name}'" ++ listRest rest

def message : ArgumentError → String
  | .unexpected owner name => s!"{owner}() got an unexpected keyword argument '{name}'"
  | .repeated owner name => s!"{owner}() got multiple values for argument '{name}'"
  | .missing owner first [] =>
    s!"{owner}() missing 1 required positional argument: '{first}'"
  | .missing owner first [second] =>
    s!"{owner}() missing 2 required positional arguments: '{first}' and '{second}'"
  | .missing owner first others =>
    s!"{owner}() missing {others.length + 1} required positional arguments: '{first}'"
      ++ listRest others

end ArgumentError

/-- The parameter of an owner that has its value already. -/
def ownParameter : String := "self"

/-- The first fault of some arguments by their names. -/
def unfitArgument? (owner : String) (parameters : List Parameter) :
    List String → Option ArgumentError
  | [] => none
  | name :: rest =>
    if name = ownParameter then some (.repeated owner name)
    else if parameters.any (·.name = name) then unfitArgument? owner parameters rest
    else some (.unexpected owner name)

def checkArguments (owner : String) (parameters : List Parameter) (names : List String) :
    Except ArgumentError Unit :=
  match unfitArgument? owner parameters names with
  | some e => .error e
  | none =>
    match parameters.filter fun p => p.isRequired && !names.contains p.name with
    | [] => .ok ()
    | first :: others => .error (.missing owner first.name (others.map Parameter.name))

end RichText
