/-
Quoted texts, as error messages and key descriptions show them.

A quoted text stands between double quotes. A character that can be seen on
its own stands for itself; the quote, the backslash and the common control
characters have a letter after a backslash; every other character is shown by
its number in lower-case hexadecimal between braces.
-/
import RelayHub.Text.Unseen

set_option autoImplicit false

namespace RelayHub.Quoted

/-- The hexadecimal digits of a number, lower case, without leading zeros. -/
def number (n : Nat) : List Char :=
  Nat.toDigits 16 n

/-- Whether a character stands for itself when it is no quote or backslash. -/
def isSeen (c : Char) : Bool :=
  let n := c.toNat
  if n < 0x20 then false
  else if n < 0x7F then true
  else if n = 0x7F then false
  else !Unseen.contains n

/-- A character between quotes of the kind `quote`. -/
def escape (quote c : Char) : List Char :=
  if c = '\x00' then ['\\', '0']
  else if c = '\t' then ['\\', 't']
  else if c = '\r' then ['\\', 'r']
  else if c = '\n' then ['\\', 'n']
  else if c = '\\' || c = quote then ['\\', c]
  else if isSeen c then [c]
  else ['\\', 'u', '\x7b'] ++ number c.toNat ++ ['\x7d']

/-- The quote on either side of a text. -/
def doubleQuote : Char := '\x22'

/-- The quote on either side of a single character. -/
def apostrophe : Char := '\x27'

/-- A text between double quotes. -/
def text (s : String) : String :=
  String.ofList (doubleQuote :: s.toList.flatMap (escape doubleQuote) ++ [doubleQuote])

/-- A character between single quotes. -/
def char (c : Char) : String :=
  String.ofList (apostrophe :: escape apostrophe c ++ [apostrophe])

end RelayHub.Quoted
