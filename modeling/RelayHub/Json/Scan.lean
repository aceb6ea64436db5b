/-
The parts of a JSON text: blanks, literals, strings, numbers, and values that
are passed over.

Every reader takes the bytes still unread. It answers with a value and the
bytes after it, or refuses. A refusal is *malformed* when its place is
settled, and *rejected* when a well-formed value has the wrong meaning: the
place of a rejection is the end of the innermost record or list around it, and
that is settled there.
-/
import RelayHub.Json.Fault

set_option autoImplicit false

namespace RelayHub.Json

/-! ## Outcomes -/

/-- What a reader makes of the bytes it is given. `rest` is where it stands;
`left` counts the bytes unread at the place of a fault. -/
inductive Outcome (α : Type) where
  | ok (value : α) (rest : Bytes)
  | rejected (reason : Reason) (rest : Bytes)
  | malformed (reason : Reason) (left : Nat)
deriving Repr

namespace Outcome

variable {α β : Type}

/-- Goes on from where a reader stands. -/
def andThen (o : Outcome α) (f : α → Bytes → Outcome β) : Outcome β :=
  match o with
  | ok value rest => f value rest
  | rejected reason rest => rejected reason rest
  | malformed reason left => malformed reason left

/-- Changes the value read. -/
def map (f : α → β) (o : Outcome α) : Outcome β :=
  o.andThen fun value rest => ok (f value) rest

/-- Settles the place of a rejection where the reader stands. -/
def settle : Outcome α → Outcome α
  | rejected reason rest => malformed reason rest.length
  | o => o

end Outcome

/-- A fault at the byte that comes next: the place is just past it, or the end
of the text if there is none. -/
def faultAtNext {α : Type} (reason : Reason) (rest : Bytes) : Outcome α :=
  .malformed reason (rest.length - 1)

/-- A fault at what was just read. -/
def faultHere {α : Type} (reason : Reason) (rest : Bytes) : Outcome α :=
  .malformed reason rest.length

/-! ## Bytes with a meaning -/

def quote : UInt8 := 0x22
def backslash : UInt8 := 0x5C
def comma : UInt8 := 0x2C
def colon : UInt8 := 0x3A
def openBracket : UInt8 := 0x5B
def closeBracket : UInt8 := 0x5D
def openBrace : UInt8 := 0x7B
def closeBrace : UInt8 := 0x7D
def minus : UInt8 := 0x2D

/-- Space, line feed, tab and carriage return. -/
def isBlank (b : UInt8) : Bool :=
  b == 0x20 || b == 0x0A || b == 0x09 || b == 0x0D

/-- Whether a byte is a decimal digit. -/
def isDigit (b : UInt8) : Bool :=
  0x30 ≤ b && b ≤ 0x39

/-- The bytes after the blanks. -/
def skipBlanks : Bytes → Bytes
  | [] => []
  | b :: rest => if isBlank b then skipBlanks rest else b :: rest

/-- Reads the rest of a literal. -/
def literal (word : Bytes) (rest : Bytes) : Outcome Unit :=
  match word, rest with
  | [], rest => .ok () rest
  | _ :: _, [] => faultHere .endOfValue []
  | w :: word, b :: rest => if b = w then literal word rest else faultHere .expectedIdent rest

/-! ## Strings -/

/-- The byte that a letter stands for after a backslash. -/
def shortEscape? (letter : UInt8) : Option UInt8 :=
  if letter = quote then some quote
  else if letter = backslash then some backslash
  else if letter = 0x2F then some 0x2F
  else if letter = 0x62 then some 0x08
  else if letter = 0x66 then some 0x0C
  else if letter = 0x6E then some 0x0A
  else if letter = 0x72 then some 0x0D
  else if letter = 0x74 then some 0x09
  else none

/-- The number that four hexadecimal digits spell. -/
def unit? (a b c d : UInt8) : Option Nat :=
  match Hex.value? a, Hex.value? b, Hex.value? c, Hex.value? d with
  | some a, some b, some c, some d => some (((a * 16 + b) * 16 + c) * 16 + d)
  | _, _, _, _ => none

/-- The bytes of the code point `n`. -/
def codePoint (n : Nat) : Bytes :=
  Utf8.encodeChar (Char.ofNat n)

/-- Reads a string up to its closing quote, undoing the escapes; `out` holds
the bytes so far, last first. A number past the basic plane is written as two
escapes in a row, the leading one from D800 to DBFF. -/
def unescape (out : Bytes) : Bytes → Outcome Bytes
  | [] => .malformed .endOfString 0
  | b :: rest =>
    if b = quote then .ok out.reverse rest
    else if b = backslash then
      match rest with
      | [] => .malformed .endOfString 0
      | letter :: rest =>
        match shortEscape? letter with
        | some c => unescape (c :: out) rest
        | none =>
          if letter = 0x75 then
            match rest with
            | a :: b :: c :: d :: rest =>
              match unit? a b c d with
              | none => faultHere .badEscape rest
              | some n =>
                if n < 0xD800 ∨ 0xE000 ≤ n then unescape ((codePoint n).reverse ++ out) rest
                else if 0xDC00 ≤ n then faultHere .loneSurrogate rest
                else
                  match rest with
                  | [] => .malformed .endOfString 0
                  | e :: rest =>
                    if e = backslash then
                      match rest with
                      | [] => .malformed .endOfString 0
                      | u :: rest =>
                        if u = 0x75 then
                          match rest with
                          | a :: b :: c :: d :: rest =>
                            match unit? a b c d with
                            | none => faultHere .badEscape rest
                            | some m =>
                              if 0xDC00 ≤ m ∧ m < 0xE000 then
                                let point := 0x10000 + (n - 0xD800) * 0x400 + (m - 0xDC00)
                                unescape ((codePoint point).reverse ++ out) rest
                              else faultHere .loneSurrogate rest
                          | _ => .malformed .endOfString 0
                        else faultHere .unfinishedEscape rest
                    else faultHere .unfinishedEscape rest
            | _ => .malformed .endOfString 0
          else faultHere .badEscape rest
    else if b < 0x20 then faultHere .controlCharacter rest
    else unescape (b :: out) rest

/-- Reads a string after its opening quote. One that is not UTF-8 is faulted as
far before its end as its bytes, with the escapes undone, reach from the first
that fits no character. -/
def stringBody (rest : Bytes) : Outcome String :=
  (unescape [] rest).andThen fun bytes after =>
    match Utf8.decode? bytes with
    | some s => .ok s after
    | none =>
      let valid := ((Utf8.flaw? bytes).map (·.validUpTo)).getD 0
      .malformed .badCodePoint (after.length + (bytes.length - valid))

/-- Passes over a string after its opening quote. Its escapes are checked for
their form only, and its bytes not at all. -/
def skipString : Bytes → Outcome Unit
  | [] => .malformed .endOfString 0
  | b :: rest =>
    if b = quote then .ok () rest
    else if b = backslash then
      match rest with
      | [] => .malformed .endOfString 0
      | letter :: rest =>
        if (shortEscape? letter).isSome then skipString rest
        else if letter = 0x75 then
          match rest with
          | a :: b :: c :: d :: rest =>
            if (unit? a b c d).isSome then skipString rest else faultHere .badEscape rest
          | _ => .malformed .endOfString 0
        else faultHere .badEscape rest
    else if b < 0x20 then faultHere .controlCharacter (b :: rest)
    else skipString rest

/-! ## Numbers -/

/-- The bytes after the digits. -/
def skipDigits : Bytes → Bytes
  | [] => []
  | b :: rest => if isDigit b then skipDigits rest else b :: rest

/-- The value of a digit. -/
def digitValue (b : UInt8) : Nat :=
  b.toNat - 0x30

/-- Reads digits onto a number as long as it fits 64 bits. Answers with the
number, how many digits were read and the bytes after them. -/
def digitsOnto (significand count : Nat) : Bytes → Nat × Nat × Bytes
  | [] => (significand, count, [])
  | b :: rest =>
    if isDigit b then
      let next := significand * 10 + digitValue b
      if next < twoTo 64 then digitsOnto next (count + 1) rest else (significand, count, b :: rest)
    else (significand, count, b :: rest)

/-- Whether the next byte is a digit. -/
def digitComes : Bytes → Bool
  | [] => false
  | b :: _ => isDigit b

/-- Multiplies or divides by powers of ten, of which none beyond `10 ^ 308` is
used; each step rounds. -/
def scaleByTen (x : Binary64) (exponent : Int) : (fuel : Nat) → Option Binary64
  | 0 => some x
  | fuel + 1 =>
    if exponent.natAbs ≤ 308 then
      if 0 ≤ exponent then x.mul? (Binary64.powerOfTen exponent.natAbs)
      else x.div? (Binary64.powerOfTen exponent.natAbs)
    else if x.isZero then some x
    else if 0 ≤ exponent then none
    else
      match x.div? (Binary64.powerOfTen 308) with
      | some y => scaleByTen y (exponent + 308) fuel
      | none => none

/-- The number with these parts. Three divisions by `10 ^ 308` leave nothing
of any significand. -/
def fraction (negative : Bool) (significand : Nat) (exponent : Int) (rest : Bytes) :
    Outcome Number :=
  match scaleByTen (Binary64.ofWord negative significand) exponent 4 with
  | some x => .ok (.fraction x) rest
  | none => faultHere .numberOutOfRange rest

/-- Reads the digits of an exponent. Past `2 ^ 31` only the sign matters. -/
def exponentDigits (e : Nat) : Bytes → (Option Nat) × Bytes
  | [] => (some e, [])
  | b :: rest =>
    if isDigit b then
      let next := e * 10 + digitValue b
      if next < twoTo 31 then exponentDigits next rest else (none, rest)
    else (some e, b :: rest)

/-- Keeps an exponent within 32 bits. -/
def clampExponent (e : Int) : Int :=
  max (-(twoTo 31 : Int)) (min (twoTo 31 - 1) e)

/-- Reads an exponent, after its letter. -/
def exponentPart (negative : Bool) (significand : Nat) (start : Int) (rest : Bytes) :
    Outcome Number :=
  let (down, rest) :=
    match rest with
    | b :: tail => if b = 0x2B then (false, tail) else if b = minus then (true, tail) else (false, rest)
    | [] => (false, [])
  match rest with
  | [] => faultHere .endOfValue []
  | b :: rest =>
    if isDigit b then
      match exponentDigits (digitValue b) rest with
      | (some e, rest) =>
        let e : Int := if down then start - e else start + e
        fraction negative significand (clampExponent e) rest
      | (none, rest) =>
        if significand ≠ 0 ∧ down = false then faultHere .numberOutOfRange rest
        else .ok (.fraction ⟨negative, 0, 0⟩) (skipDigits rest)
    else faultHere .badNumber rest

/-- Reads what may follow the digits of a number that has a fraction: an
exponent, or nothing. -/
def afterFraction (negative : Bool) (significand : Nat) (exponent : Int) (rest : Bytes) :
    Outcome Number :=
  match rest with
  | b :: tail =>
    if b = 0x65 ∨ b = 0x45 then exponentPart negative significand exponent tail
    else fraction negative significand exponent rest
  | [] => fraction negative significand exponent []

/-- Reads the digits after a point. Those that no longer fit 64 bits are
passed over. -/
def decimalPart (negative : Bool) (significand : Nat) (exponent : Int) (rest : Bytes) :
    Outcome Number :=
  let (significand, count, after) := digitsOnto significand 0 rest
  if digitComes after then
    afterFraction negative significand (exponent - count) (skipDigits after)
  else if count = 0 then
    match after with
    | [] => faultAtNext .endOfValue []
    | _ => faultAtNext .badNumber after
  else afterFraction negative significand (exponent - count) after

/-- Reads what follows the whole part of a number whose digits all fit. -/
def afterWhole (negative : Bool) (significand : Nat) (rest : Bytes) : Outcome Number :=
  let done : Outcome Number :=
    if negative then
      if 0 < significand ∧ significand ≤ twoTo 63 then .ok (.whole (-(significand : Int))) rest
      else .ok (.fraction (Binary64.ofWord true significand)) rest
    else .ok (.whole significand) rest
  match rest with
  | b :: tail =>
    if b = 0x2E then decimalPart negative significand 0 tail
    else if b = 0x65 ∨ b = 0x45 then exponentPart negative significand 0 tail
    else done
  | [] => done

/-- Reads the rest of a whole part that does not fit 64 bits. -/
def longWhole (negative : Bool) (significand : Nat) (exponent : Int) : Bytes → Outcome Number
  | [] => fraction negative significand exponent []
  | b :: rest =>
    if isDigit b then longWhole negative significand (exponent + 1) rest
    else if b = 0x2E then decimalPart negative significand exponent rest
    else if b = 0x65 ∨ b = 0x45 then exponentPart negative significand exponent rest
    else fraction negative significand exponent (b :: rest)

/-- Reads a number after its sign. A leading zero stands alone. -/
def number (negative : Bool) : Bytes → Outcome Number
  | [] => faultHere .endOfValue []
  | b :: rest =>
    if b = 0x30 then
      if digitComes rest then faultAtNext .badNumber rest else afterWhole negative 0 rest
    else if isDigit b then
      let (significand, _, after) := digitsOnto (digitValue b) 1 rest
      if digitComes after then longWhole negative significand 0 after
      else afterWhole negative significand after
    else faultHere .badNumber rest

/-- Passes over an exponent, after its letter. -/
def skipExponent (rest : Bytes) : Outcome Unit :=
  let rest :=
    match rest with
    | b :: tail => if b = 0x2B ∨ b = minus then tail else rest
    | [] => []
  match rest with
  | [] => faultHere .badNumber []
  | b :: rest => if isDigit b then .ok () (skipDigits rest) else faultHere .badNumber rest

/-- Passes over what may follow the digits of a number. -/
def skipFractionEnd (rest : Bytes) : Outcome Unit :=
  match rest with
  | b :: tail => if b = 0x65 ∨ b = 0x45 then skipExponent tail else .ok () rest
  | [] => .ok () []

/-- Passes over a number, after its sign. -/
def skipNumber : Bytes → Outcome Unit
  | [] => faultHere .badNumber []
  | b :: rest =>
    if b = 0x30 ∧ digitComes rest then faultAtNext .badNumber rest
    else if isDigit b then
      let after := skipDigits rest
      match after with
      | c :: tail =>
        if c = 0x2E then
          if digitComes tail then skipFractionEnd (skipDigits tail)
          else faultAtNext .badNumber tail
        else skipFractionEnd after
      | [] => .ok () []
    else faultHere .badNumber rest

/-! ## A value of the wrong kind -/

/-- Refuses the value that comes next, naming what it is. A list or an object
is refused before it is opened, any other value after it is read. -/
def wrongType {α : Type} (expected : String) (rest : Bytes) : Outcome α :=
  let refuse (found : Found) (rest : Bytes) : Outcome α :=
    faultHere (.wrongType found expected) rest
  match rest with
  | [] => faultAtNext .expectedValue []
  | b :: tail =>
    if b = 0x6E then (literal [0x75, 0x6C, 0x6C] tail).andThen fun _ r => refuse .null r
    else if b = 0x74 then
      (literal [0x72, 0x75, 0x65] tail).andThen fun _ r => refuse (.boolean true) r
    else if b = 0x66 then
      (literal [0x61, 0x6C, 0x73, 0x65] tail).andThen fun _ r => refuse (.boolean false) r
    else if b = minus then (number true tail).andThen fun n r => refuse (.number n) r
    else if isDigit b then (number false rest).andThen fun n r => refuse (.number n) r
    else if b = quote then (stringBody tail).andThen fun s r => refuse (.text s) r
    else if b = openBracket then refuse .sequence rest
    else if b = openBrace then refuse .map rest
    else faultAtNext .expectedValue rest

/-! ## Passing over a value -/

/-- What encloses the value being passed over. -/
inductive Frame where
  | list
  | object
deriving DecidableEq, Repr

/-- Passes over a key and its colon. -/
def skipKey (rest : Bytes) : Outcome Unit :=
  match skipBlanks rest with
  | [] => faultAtNext .endOfObject []
  | b :: tail =>
    if b = quote then
      (skipString tail).andThen fun _ rest =>
        match skipBlanks rest with
        | [] => faultAtNext .endOfObject []
        | c :: tail => if c = colon then .ok () tail else faultAtNext .expectedColon (c :: tail)
    else faultAtNext .keyNotText (b :: tail)

/-- Passes over one value that is neither list nor object. -/
def skipScalar (b : UInt8) (tail : Bytes) : Outcome Unit :=
  if b = 0x6E then literal [0x75, 0x6C, 0x6C] tail
  else if b = 0x74 then literal [0x72, 0x75, 0x65] tail
  else if b = 0x66 then literal [0x61, 0x6C, 0x73, 0x65] tail
  else if b = minus then skipNumber tail
  else if isDigit b then skipNumber (b :: tail)
  else if b = quote then skipString tail
  else faultAtNext .expectedValue (b :: tail)

mutual

/-- Passes over a value inside the given frames, innermost first, and then
over the rest of the frames. Every step reads a byte, so a fuel of twice the
bytes left is never spent. -/
def skipInside (fuel : Nat) (frames : List Frame) (rest : Bytes) : Outcome Unit :=
  match fuel with
  | 0 => faultHere .endOfValue rest
  | fuel + 1 =>
    match skipBlanks rest with
    | [] => faultAtNext .endOfValue []
    | b :: tail =>
      if b = openBracket then skipAfter fuel false (.list :: frames) tail
      else if b = openBrace then skipAfter fuel false (.object :: frames) tail
      else (skipScalar b tail).andThen fun _ rest => skipAfter fuel true frames rest

/-- Goes on inside the given frames, after a value or after an opening. -/
def skipAfter (fuel : Nat) (afterValue : Bool) (frames : List Frame) (rest : Bytes) :
    Outcome Unit :=
  match fuel with
  | 0 => faultHere .endOfValue rest
  | fuel + 1 =>
    match frames with
    | [] => .ok () rest
    | frame :: outer =>
      let next (rest : Bytes) : Outcome Unit :=
        match frame with
        | .list => skipInside fuel frames rest
        | .object => (skipKey rest).andThen fun _ rest => skipInside fuel frames rest
      match frame, skipBlanks rest with
      | .list, [] => faultAtNext .endOfList []
      | .object, [] => faultAtNext .endOfObject []
      | .list, b :: tail =>
        if b = comma ∧ afterValue then next tail
        else if b = closeBracket then skipAfter fuel true outer tail
        else if afterValue then faultAtNext .expectedCommaOrBracket (b :: tail)
        else next (b :: tail)
      | .object, b :: tail =>
        if b = comma ∧ afterValue then next tail
        else if b = closeBrace then skipAfter fuel true outer tail
        else if afterValue then faultAtNext .expectedCommaOrBrace (b :: tail)
        else next (b :: tail)

end

/-- Passes over one value. -/
def skipValue (rest : Bytes) : Outcome Unit :=
  skipInside (2 * rest.length + 2) [] rest

end RelayHub.Json
