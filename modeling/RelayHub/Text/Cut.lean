/-
Cutting a text at some of its characters.
-/

set_option autoImplicit false

namespace RelayHub

/-- A text before and after the first character of a kind; there may be none
after. -/
def cut (cuts : Char → Bool) (cs : List Char) : List Char × Option (List Char) :=
  (cs.takeWhile fun c => !cuts c,
   match cs.dropWhile fun c => !cuts c with
   | [] => none
   | _ :: rest => some rest)

/-- Puts a character in front of the first of some pieces. -/
def consPiece (c : Char) : List (List Char) → List (List Char)
  | [] => [[c]]
  | piece :: rest => (c :: piece) :: rest

/-- The pieces of a text between the characters of a kind. There is always one
more than there are such characters. -/
def pieces (cuts : Char → Bool) (cs : List Char) : List (List Char) :=
  cs.foldr (fun c rest => if cuts c then [] :: rest else consPiece c rest) [[]]

/-- Whether a character is one of ASCII. -/
def isAscii (c : Char) : Bool :=
  decide (c.toNat < 0x80)

end RelayHub
