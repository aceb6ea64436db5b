/-
Hexadecimal text: two digits a byte, lower case when written, either case when
read. Reading refuses an odd number of digits before it looks at any of them,
and otherwise names the first byte of the text that is no digit.
-/
import RelayHub.Text.Quoted
import RelayHub.Text.Utf8

set_option autoImplicit false

namespace RelayHub.Hex

/-! ## Writing -/

/-- The digit for a number below sixteen. -/
def digit (n : Nat) : Char :=
  if n < 10 then Char.ofNat (48 + n) else Char.ofNat (87 + n)

/-- The two digits of each byte. -/
def encodeChars (bytes : Bytes) : List Char :=
  bytes.flatMap fun b => [digit (b.toNat / 16), digit (b.toNat % 16)]

/-- The hexadecimal text of a byte string. -/
def encode (bytes : Bytes) : String :=
  String.ofList (encodeChars bytes)

/-! ## Reading -/

/-- Why a text is not hexadecimal. -/
inductive Error where
  | oddLength
  | badDigit (byte : UInt8) (position : Nat)
deriving DecidableEq, Repr

/-- The sentence that reports an error. A byte that is no digit is shown as
the character with its number. -/
def Error.message : Error → String
  | .oddLength => "Odd number of digits"
  | .badDigit byte position =>
    "Invalid character " ++ Quoted.char (Char.ofNat byte.toNat) ++ " at position " ++
      toString position

/-- The value of a digit. -/
def value? (b : UInt8) : Option Nat :=
  let n := b.toNat
  if 48 ≤ n ∧ n ≤ 57 then some (n - 48)
  else if 97 ≤ n ∧ n ≤ 102 then some (n - 87)
  else if 65 ≤ n ∧ n ≤ 70 then some (n - 55)
  else none

/-- Reads digits in pairs, `position` being that of the first one. -/
def decodePairs (position : Nat) : Bytes → Except Error Bytes
  | [] => .ok []
  | [_] => .error .oddLength
  | a :: b :: rest =>
    match value? a, value? b with
    | none, _ => .error (.badDigit a position)
    | some _, none => .error (.badDigit b (position + 1))
    | some high, some low =>
      (decodePairs (position + 2) rest).map (UInt8.ofNat (high * 16 + low) :: ·)

/-- The byte string that hexadecimal digits spell. -/
def decodeBytes (digits : Bytes) : Except Error Bytes :=
  if digits.length % 2 = 0 then decodePairs 0 digits else .error .oddLength

/-- The byte string that a hexadecimal text spells. -/
def decode (s : String) : Except Error Bytes :=
  decodeBytes (Utf8.encode s)

end RelayHub.Hex
