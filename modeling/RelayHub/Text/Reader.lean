/-
Reading from the front of a text.

A reader takes what it needs from a list of characters and leaves the rest, or
takes nothing and fails. Loops are bounded by the number of characters left,
since each round takes at least one.
-/

set_option autoImplicit false

namespace RelayHub

/-- Reads an `α` from the front of a list of characters. -/
abbrev Reader (α : Type) : Type := StateT (List Char) Option α

namespace Reader

variable {α : Type}

/-- How many characters are left. -/
def left : Reader Nat := fun cs => some (cs.length, cs)

/-- The next character, which stays. -/
def peek : Reader (Option Char) := fun cs => some (cs.head?, cs)

/-- Takes the next character if it fits. -/
def one (fits : Char → Bool) : Reader Char
  | c :: cs => if fits c then some (c, cs) else none
  | [] => none

/-- Takes a given character. -/
def char (c : Char) : Reader Unit := do
  let _ ← one (· == c)

/-- Takes given characters. -/
def chars : List Char → Reader Unit
  | [] => pure ()
  | c :: cs => do
    char c
    chars cs

/-- Takes characters as long as they fit. -/
def many (fits : Char → Bool) : Reader (List Char) := fun cs =>
  some (cs.takeWhile fits, cs.dropWhile fits)

/-- Takes characters as long as they fit, and at least one. -/
def several (fits : Char → Bool) : Reader (List Char) := do
  let c ← one fits
  let cs ← many fits
  return c :: cs

/-- Takes exactly a number of characters that fit. -/
def exactly (n : Nat) (fits : Char → Bool) : Reader (List Char) :=
  match n with
  | 0 => pure []
  | n + 1 => do
    let c ← one fits
    let cs ← exactly n fits
    return c :: cs

/-- Takes nothing, at the end of the text only. -/
def atEnd : Reader Unit
  | [] => some ((), [])
  | _ :: _ => none

/-- Reads something, or nothing. -/
def optional (r : Reader α) : Reader (Option α) := fun cs =>
  match r cs with
  | some (v, rest) => some (some v, rest)
  | none => some (none, cs)

/-- Reads one thing, or else another. -/
def orElse (r other : Reader α) : Reader α := fun cs =>
  match r cs with
  | some out => some out
  | none => other cs

/-- Refuses what does not fit. -/
def guarded (fits : Bool) : Reader Unit := fun cs =>
  if fits then some ((), cs) else none

/-- Reads as often as possible, at most `rounds` times. -/
def repeatUpTo (rounds : Nat) (r : Reader α) : Reader (List α) :=
  match rounds with
  | 0 => pure []
  | rounds + 1 => fun cs =>
    match r cs with
    | some (v, rest) => (repeatUpTo rounds r rest).map fun (vs, rest) => (v :: vs, rest)
    | none => some ([], cs)

/-- Reads as often as possible. -/
def manyOf (r : Reader α) : Reader (List α) := do
  repeatUpTo ((← left) + 1) r

end Reader

end RelayHub
