/-
Letters with marks in their composed form.

A letter with a mark may be written as one character or as two, and a letter
may carry several marks in different orders. The composed form takes letters
and marks apart, sorts the marks that follow a letter by their classes, where
marks of one class keep their order, and then puts letters and marks together
again. A mark is kept from its letter by one before it of the same class or a
higher one. The syllables of Hangul are put together by computation.
-/
import RelayHub.Text.CompositionTable

set_option autoImplicit false

namespace RelayHub.Composition

/-- The class of a mark; letters have class zero. -/
def classOf (c : Char) : Nat :=
  if c.toNat < 0x300 then 0 else (CodeTable.valueOf classes c).getD 0

/-! ## Hangul -/

/-- The parts of a syllable: one of nineteen leading consonants, one of
twenty-one vowels, and one of twenty-seven trailing consonants or none. -/
def syllableParts? (c : Char) : Option (List Char) :=
  let n := c.toNat - 0xAC00
  if 0xAC00 ≤ c.toNat ∧ n < 11172 then
    let front := [Char.ofNat (0x1100 + n / 588), Char.ofNat (0x1161 + n % 588 / 28)]
    some (if n % 28 = 0 then front else front ++ [Char.ofNat (0x11A7 + n % 28)])
  else none

/-- The syllable that two parts make. -/
def syllable? (a b : Char) : Option Char :=
  let lead := a.toNat - 0x1100
  let vowel := b.toNat - 0x1161
  let block := a.toNat - 0xAC00
  let tail := b.toNat - 0x11A7
  if 0x1100 ≤ a.toNat ∧ lead < 19 ∧ 0x1161 ≤ b.toNat ∧ vowel < 21 then
    some (Char.ofNat (0xAC00 + (lead * 21 + vowel) * 28))
  else if 0xAC00 ≤ a.toNat ∧ block < 11172 ∧ block % 28 = 0 ∧ 0x11A7 < b.toNat ∧ tail < 28 then
    some (Char.ofNat (a.toNat + tail))
  else none

/-! ## Taking apart -/

/-- The letter and the mark of a character, if it has both. -/
def pairOf? (c : Char) : Option (Char × Char) :=
  compositions.findSome? fun row =>
    match row with
    | [letter, mark, both] =>
      if both = c.toNat then some (Char.ofNat letter, Char.ofNat mark) else none
    | _ => none

/-- A letter and its marks; the letter may have to be taken apart `depth`
times. -/
def takeApart : (depth : Nat) → Char → List Char
  | 0, c => [c]
  | depth + 1, c =>
    match syllableParts? c with
    | some parts => parts
    | none =>
      match pairOf? c with
      | some (letter, mark) => takeApart depth letter ++ [mark]
      | none => [c]

/-- Puts a character in front of others, behind those marks that come before
it. -/
def insertMark (c : Char) : List Char → List Char
  | [] => [c]
  | d :: rest =>
    if 0 < classOf d && classOf d < classOf c then d :: insertMark c rest else c :: d :: rest

/-- A text taken apart, with its marks in order. -/
def apart (cs : List Char) : List Char :=
  (cs.flatMap (takeApart 4)).foldr insertMark []

/-! ## Putting together -/

/-- The character that a letter and a mark make. -/
def pair? (letter mark : Char) : Option Char :=
  (syllable? letter mark).or <|
    compositions.findSome? fun row =>
      match row with
      | [a, b, both] =>
        if a = letter.toNat ∧ b = mark.toNat then some (Char.ofNat both) else none
      | _ => none

/-- Puts marks together with the letter before them. The marks that stay by
themselves are given in reverse, with the class of the last one. -/
def attach (letter : Char) (marks : List Char) (last : Nat) : List Char → List Char
  | [] => letter :: marks.reverse
  | c :: rest =>
    let free : Bool := marks.isEmpty || last < classOf c
    match if free then pair? letter c else none with
    | some both => attach both marks last rest
    | none =>
      if classOf c = 0 then letter :: marks.reverse ++ attach c [] 0 rest
      else attach letter (c :: marks) (classOf c) rest

/-- Puts the letters and marks of a text together. -/
def together : List Char → List Char
  | [] => []
  | c :: rest => if classOf c = 0 then attach c [] 0 rest else c :: together rest

/-- The composed form of a text. -/
def composed (cs : List Char) : List Char :=
  if cs.all isAscii then cs else together (apart cs)

end RelayHub.Composition
