/-
Characters as they stand in a name.

Names that look alike are one name. So capital letters stand for small ones,
wide and raised letters for plain ones, and signs made of several letters for
those letters. Some characters are read as if they were not there, and others
stand in no name at all.
-/
import RelayHub.DomainName.MappingTable

set_option autoImplicit false

namespace RelayHub.DomainName

/-- What a code point stands for in a table of shifted ones. -/
def shiftedTo? (n : Nat) : Option Nat :=
  shifted.findSome? fun row =>
    match row with
    | [source, target] => if n = source then some target else none
    | [first, last, target] => if first ≤ n ∧ n ≤ last then some (target + (n - first)) else none
    | _ => none

/-- What a code point stands for in a table of alternating ones. -/
def alternateOf? (n : Nat) : Option Nat :=
  alternating.findSome? fun row =>
    match row with
    | [first, last, target] =>
      if first ≤ n ∧ n ≤ last ∧ (n - first) % 2 = 0 then some (target + (n - first)) else none
    | _ => none

/-- The characters that a code point stands for, if it is spelled out. -/
def spelledOut? (n : Nat) : Option (List Char) :=
  spelled.findSome? fun row =>
    match row with
    | source :: targets => if n = source then some (targets.map Char.ofNat) else none
    | [] => none

/-- The characters that a character past ASCII stands for, which may be itself;
none if it stands in no name. -/
def standsFor? (c : Char) : Option (List Char) :=
  if CodeTable.holds refused c then none
  else if CodeTable.holds ignored c then some []
  else
    match (shiftedTo? c.toNat).or (alternateOf? c.toNat) with
    | some n => some [Char.ofNat n]
    | none => some ((spelledOut? c.toNat).getD [c])

/-- The characters that a character stands for. -/
def mapped? (c : Char) : Option (List Char) :=
  if isAscii c then some [c.toLower] else standsFor? c

/-- Whether a character stands for itself. -/
def isSettled (c : Char) : Bool :=
  mapped? c == some [c]

/-- A name with each character as it stands in names. -/
def mapName (cs : List Char) : Option (List Char) := do
  return (← cs.mapM mapped?).flatten

end RelayHub.DomainName
