import RichText.Value

/-!
The order of the members of a set of numbers. They are put into a table of slots, each at the first
free slot of a sequence that begins with its residue, and are listed slot by slot. The residues of
equal numbers are equal, also those of an integer and a quotient.
-/

set_option autoImplicit false
set_option relaxedAutoImplicit false

namespace RichText

/-- The prime number to which residues are taken. -/
def residueBase : Nat := 2305843009213693951

/-- A residue with the sign of its number; -1 stands for something else. -/
def signedResidue (negative : Bool) (r : Nat) : Int :=
  let n : Int := if negative then -r else r
  if n = -1 then -2 else n

/-- Powers of two repeat after 61 steps. -/
def powerResidue (exponent : Int) : Nat := Nat.pow 2 (exponent.emod 61).toNat % residueBase

/-- The residue of a number; what is not a number has none of its own. -/
def Binary64.residue? : Binary64 → Option Int
  | .nan => none
  | .infinite negative => some (if negative then -314159 else 314159)
  | .finite negative m e =>
    some (signedResidue negative (m % residueBase * powerResidue e % residueBase))

def Scalar.residue? : Scalar → Option Int
  | .bool b => some (if b then 1 else 0)
  | .int n => some (signedResidue (decide (n < 0)) (n.natAbs % residueBase))
  | .float x => x.residue?
  | _ => none

namespace Members

def word (residue : Int) : Nat := (residue.emod (Nat.pow 2 64 : Nat)).toNat

abbrev Table := Array (Option (Nat × Scalar))

/-- How many slots behind the first one are tried; near the end of the table none are. -/
def neighbours (size slot : Nat) : Nat := if slot + 10 ≤ size then 9 else 0

def freeSlot? (t : Table) (slot : Nat) : Nat → Option Nat
  | 0 => if (t[slot]?).any (·.isNone) then some slot else none
  | left + 1 => if (t[slot]?).any (·.isNone) then some slot else freeSlot? t (slot + 1) left

/-- Puts a member into the table. The slots tried depend on all bits of the word. -/
def put (t : Table) (member : Nat × Scalar) (slot perturbation : Nat) : Nat → Table
  | 0 => t
  | steps + 1 =>
    match freeSlot? t slot (neighbours t.size slot) with
    | some free => t.set! free (some member)
    | none =>
      let perturbation := perturbation / 32
      put t member ((5 * slot + 1 + perturbation) % t.size) perturbation steps

def insert (t : Table) (member : Nat × Scalar) : Table :=
  put t member (member.1 % t.size) member.1 (t.size + 64)

/-- The least power of two, from 8 on, above a number. -/
def tableSize (n : Nat) : Nat := if n < 8 then 8 else Nat.pow 2 (n.log2 + 1)

def emptyTable (n : Nat) : Table := (List.replicate (tableSize n) none).toArray

def grown (t : Table) (n : Nat) : Table :=
  t.foldl (fun acc m => match m with
    | some member => insert acc member
    | none => acc) (emptyTable n)

/-- Adds a member and grows the table once it is three fifths full. -/
def add (t : Table) (count : Nat) (member : Nat × Scalar) : Table :=
  let t := insert t member
  if 5 * (count + 1) < 3 * (t.size - 1) then t
  else grown t (if 50000 < count + 1 then 2 * (count + 1) else 4 * (count + 1))

def tableOf (members : List (Nat × Scalar)) : Table :=
  let start := emptyTable (if 5 * members.length < 21 then 0 else 2 * members.length)
  (members.foldl (fun acc m => (add acc.1 acc.2 m, acc.2 + 1)) (start, 0)).1

end Members

/-- The members of a set of numbers in the order of their slots; other members stay as they are. -/
def Scalar.arranged (members : List Scalar) : List Scalar :=
  match members.mapM fun m => (m.residue?).map fun r => (Members.word r, m) with
  | none => members
  | some ms => (Members.tableOf ms).toList.filterMap fun m => m.map Prod.snd

end RichText
