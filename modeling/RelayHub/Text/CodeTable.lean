/-
Tables of code points, written as text.

A table is a text of rows with blanks and line breaks between them. A row is
made of numbers in base sixteen with dots between them. So a table of some thousand rows is one
string, and it is read when a character is first looked up in it.
-/
import RelayHub.Text.Cut
import RelayHub.Text.Digits

set_option autoImplicit false

namespace RelayHub

/-- Code points from a first to a last one. -/
structure CodeRange where
  first : Nat
  last : Nat
deriving DecidableEq, Repr

namespace CodeRange

/-- Whether a code point is in a range. -/
def holds (r : CodeRange) (n : Nat) : Bool :=
  decide (r.first ≤ n ∧ n ≤ r.last)

end CodeRange

namespace CodeTable

/-- The rows of a table. -/
def rows (text : String) : List (List Nat) :=
  ((pieces (fun c => c = ' ' || c = '\n') text.toList).filter (!·.isEmpty)).map fun row =>
    (pieces (· = '.') row).map (numberOf 16)

/-- A row as a range; a single number is a range of one. -/
def rangeOf : List Nat → CodeRange
  | [] => ⟨1, 0⟩
  | [n] => ⟨n, n⟩
  | first :: last :: _ => ⟨first, last⟩

/-- The ranges of a table. -/
def ranges (text : String) : List CodeRange :=
  (rows text).map rangeOf

/-- Whether a character is in a table of ranges. -/
def holds (table : List CodeRange) (c : Char) : Bool :=
  table.any (·.holds c.toNat)

/-- The number that a table of rows has for a character, the rows being a first
and a last code point and a number. -/
def valueOf (table : List (List Nat)) (c : Char) : Option Nat :=
  table.findSome? fun row =>
    match row with
    | [first, last, value] => if (CodeRange.mk first last).holds c.toNat then some value else none
    | _ => none

end CodeTable

end RelayHub
