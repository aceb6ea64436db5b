/-
Names of any characters in ASCII.

The ASCII characters of a name come first, then a hyphen, and then the other
characters in the order of their code points. Each is written as the number of
steps from the one before it, where a step leads to the next place in the name
and, after the last place, to the first place with the next code point. Such a
number is written with digits in base thirty-six, the lowest first, and a digit
below a threshold ends it. The thresholds follow a bias that is adapted to the
numbers written so far.
-/
import RelayHub.Numeric.Power
import RelayHub.Text.Cut

set_option autoImplicit false

namespace RelayHub.Punycode

/-! ## Numbers -/

/-- The digit with a value below thirty-six. -/
def digit (n : Nat) : Char :=
  if n < 26 then Char.ofNat (97 + n) else Char.ofNat (22 + n)

/-- The value of a digit. -/
def valueOf? (c : Char) : Option Nat :=
  let n := c.toNat
  if 97 ≤ n ∧ n ≤ 122 then some (n - 97)
  else if 65 ≤ n ∧ n ≤ 90 then some (n - 65)
  else if 48 ≤ n ∧ n ≤ 57 then some (n - 22)
  else none

/-- The threshold of a place, places being counted in steps of thirty-six. -/
def threshold (place bias : Nat) : Nat :=
  min 26 (max 1 (place - bias))

/-- Divides a number until it is small, and makes the bias from what is left
and the number of divisions; `fuel` bounds the divisions. -/
def settle : (fuel : Nat) → (bias n : Nat) → Nat
  | 0, bias, n => bias + 36 * n / (n + 38)
  | fuel + 1, bias, n =>
    if 455 < n then settle fuel (bias + 36) (n / 35) else bias + 36 * n / (n + 38)

/-- The bias after a number, the name having `length` characters by then. The
first number is taken to be far greater than those after it. -/
def adapt (n length : Nat) (first : Bool) : Nat :=
  let n := if first then n / 700 else n / 2
  settle 32 0 (n + n / length)

/-- The bias before the first number. -/
def firstBias : Nat := 72

/-- The digits of a number from a place on; `fuel` bounds how many. -/
def digits : (fuel : Nat) → (place bias n : Nat) → List Char
  | 0, _, _, n => [digit n]
  | fuel + 1, place, bias, n =>
    let t := threshold place bias
    if n < t then [digit n]
    else digit (t + (n - t) % (36 - t)) :: digits fuel (place + 36) bias ((n - t) / (36 - t))

/-! ## Writing -/

/-- What has been written: how many characters of the name, the steps since the
last of them, the bias, and the digits in reverse. -/
structure Written where
  count : Nat
  steps : Nat
  bias : Nat
  first : Bool
  digits : List Char
deriving DecidableEq, Repr

/-- Goes past a character of the name on the way to those with a code point. -/
def Written.pass (code : Nat) (w : Written) (c : Char) : Written :=
  if c.toNat < code then { w with steps := w.steps + 1 }
  else if c.toNat = code then
    { count := w.count + 1
      steps := 0
      bias := adapt w.steps (w.count + 1) w.first
      first := false
      digits := (Punycode.digits 32 36 w.bias w.steps).reverse ++ w.digits }
  else w

/-- Writes the characters with some code points, in ascending order, from code
point `next` on. -/
def writeCodes (cs : List Char) : (next : Nat) → Written → List Nat → Written
  | _, w, [] => w
  | next, w, code :: rest =>
    let w := { w with steps := w.steps + (code - next) * (w.count + 1) }
    let w := cs.foldl (Written.pass code) w
    writeCodes cs (code + 1) { w with steps := w.steps + 1 } rest

/-- The text of a name. -/
def encode (cs : List Char) : List Char :=
  let plain := cs.filter isAscii
  let codes := ((cs.filter fun c => !isAscii c).map Char.toNat).eraseDups.mergeSort
  let w := writeCodes cs 0x80 ⟨plain.length, 0, firstBias, true, []⟩ codes
  (if plain.isEmpty then [] else plain ++ ['-']) ++ w.digits.reverse

/-! ## Reading -/

/-- What has been read: the name so far, the last code point, the place after
it, and the number being read with the place where it began, the weight of its
next digit, and the bias. -/
structure Reading where
  name : List Char
  code : Nat
  start : Nat
  steps : Nat
  place : Nat
  weight : Nat
  bias : Nat
deriving DecidableEq, Repr

/-- The end of a number: a character goes into the name. -/
def Reading.finish (r : Reading) : Option Reading :=
  let length := r.name.length + 1
  let code := r.code + r.steps / length
  let index := r.steps % length
  if code.isValidChar then
    some {
      name := r.name.take index ++ Char.ofNat code :: r.name.drop index
      code
      start := index + 1
      steps := index + 1
      place := 36
      weight := 1
      bias := adapt (r.steps - r.start) length (decide (r.start = 0)) }
  else none

/-- Reads a digit. Numbers have at most thirty-two bits. -/
def Reading.read (r : Reading) (c : Char) : Option Reading := do
  let d ← valueOf? c
  let steps := r.steps + d * r.weight
  let t := threshold r.place r.bias
  if twoTo 32 ≤ steps then none
  else if d < t then Reading.finish { r with steps }
  else if twoTo 32 ≤ r.weight * (36 - t) then none
  else some { r with steps, place := r.place + 36, weight := r.weight * (36 - t) }

/-- The ASCII characters of a text, and its digits. A hyphen at the front does
not end the ASCII characters. -/
def halves (cs : List Char) : List Char × List Char :=
  let digits := (cs.reverse.takeWhile (· ≠ '-')).reverse
  let plain := cs.take (cs.length - digits.length - 1)
  if plain.isEmpty then ([], cs) else (plain, digits)

/-- The name with a text. -/
def decode (cs : List Char) : Option (List Char) := do
  let (plain, digits) := halves cs
  let r ← digits.foldlM Reading.read ⟨plain, 0x80, 0, 0, 36, 1, firstBias⟩
  if r.place = 36 then some r.name else none

end RelayHub.Punycode
