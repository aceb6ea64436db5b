/-
Percent signs in addresses.

A character that cannot stand at its place in an address is written as a percent
sign with two upper-case digits for each of its bytes. Reading takes digits of
either case, and leaves a percent sign without two digits as it is.
-/
import RelayHub.Text.Digits
import RelayHub.Text.Utf8

set_option autoImplicit false

namespace RelayHub.Percent

/-! ## Writing -/

/-- The upper-case hexadecimal digit of a number below sixteen. -/
def upperDigit (n : Nat) : Char :=
  if n < 10 then Char.ofNat (48 + n) else Char.ofNat (55 + n)

/-- A byte as a percent sign and two digits. -/
def encodeByte (b : UInt8) : List Char :=
  ['%', upperDigit (b.toNat / 16), upperDigit (b.toNat % 16)]

/-- Characters with the excluded ones written with percent signs. -/
def encode (excluded : Char → Bool) (cs : List Char) : List Char :=
  cs.flatMap fun c =>
    if excluded c then (Utf8.encodeChar c).flatMap encodeByte else [c]

/-! ## Reading -/

/-- The bytes of a text with percent signs. -/
def decode : List Char → Bytes
  | [] => []
  | '%' :: a :: b :: rest =>
    match digitValue? a, digitValue? b with
    | some high, some low => UInt8.ofNat (high * 16 + low) :: decode rest
    | _, _ => 0x25 :: decode (a :: b :: rest)
  | c :: rest => Utf8.encodeChar c ++ decode rest

/-! ## Where characters cannot stand -/

/-- Characters that stand nowhere in an address: controls, and all that is not
ASCII. -/
def isOutside (c : Char) : Bool :=
  c.toNat < 0x20 || 0x7F ≤ c.toNat

/-- Characters that do not stand in a fragment. -/
def notInFragment (c : Char) : Bool :=
  isOutside c || [' ', '\x22', '<', '>', '\x60'].contains c

/-- Characters that do not stand in a path. -/
def notInPath (c : Char) : Bool :=
  notInFragment c || ['#', '?', '\x7b', '\x7d'].contains c

/-- Characters that do not stand in the name or password of a user. -/
def notInUser (c : Char) : Bool :=
  notInPath c || ['/', ':', ';', '=', '@', '[', '\\', ']', '^', '|'].contains c

/-- Characters that do not stand in a query. -/
def notInQuery (c : Char) : Bool :=
  isOutside c || [' ', '\x22', '#', '<', '>'].contains c

/-- Characters that do not stand in a query on the web. -/
def notInWebQuery (c : Char) : Bool :=
  notInQuery c || c = '\x27'

end RelayHub.Percent
