/-
The host of an address.

On the web a host is a number or a name. Eight groups stand in brackets. All
else is a name once its percent signs are read and it is written in ASCII; but
if its last label is a number, the name is four bytes, of which the last ones
may be written as one number, and each number in base ten, in base eight after
a zero, or in base sixteen after `0x`. Elsewhere a host that is not in brackets
is only a text.
-/
import RelayHub.DomainName.Basic
import RelayHub.Net.HostAddress
import RelayHub.Net.Percent

set_option autoImplicit false

namespace RelayHub

/-- A host. -/
inductive Host where
  | name (text : String)
  | short (bytes : List UInt8)
  | long (groups : List UInt16)
deriving DecidableEq, Repr

namespace Host

/-! ## Numbers -/

/-- A number at the front of a text with the base that it is written in. No
digits after the sign of a base are a zero. -/
def numeral : List Char → Nat × List Char
  | '0' :: 'x' :: digits => (16, digits)
  | '0' :: 'X' :: digits => (16, digits)
  | '0' :: d :: digits => (8, d :: digits)
  | digits => (10, digits)

/-- The number that a label is, in its base. -/
def number? (label : List Char) : Option Nat :=
  if label.isEmpty then none
  else
    let (base, digits) := numeral label
    if digits.all (isDigitIn base) then some (numberOf base digits) else none

/-- The labels of a name, without an empty one at the end. -/
def labels (name : List Char) : List (List Char) :=
  let all := pieces (· = '.') name
  if all.getLast? = some [] then all.dropLast else all

/-- Whether a name ends in a number. -/
def endsInNumber (name : List Char) : Bool :=
  match (labels name).getLast? with
  | none => false
  | some last => !last.isEmpty && (last.all (isDigitIn 10) || (number? last).isSome)

/-- The lowest bytes of a number, the highest of them first. -/
def lowBytes : (count : Nat) → Nat → List UInt8
  | 0, _ => []
  | count + 1, n => lowBytes count (n / 256) ++ [UInt8.ofNat n]

/-- The four bytes that numbers stand for: the last number is as many bytes as
the others leave. -/
def bytesOf? (numbers : List Nat) : Option (List UInt8) :=
  match numbers.getLast? with
  | none => none
  | some last =>
    let front := numbers.dropLast
    let count := 4 - front.length
    if front.length < 4 ∧ front.all (· < 256) ∧ last < twoTo (8 * count) then
      some (front.map UInt8.ofNat ++ lowBytes count last)
    else none

/-! ## Reading -/

/-- The groups in brackets, given after the first of these. -/
def bracketed? (cs : List Char) : Option Host :=
  match HostAddress.eightGroups cs with
  | some (groups, [']']) => some (long groups)
  | _ => none

/-- The host that a name is. -/
def ofName? (name : List Char) : Option Host :=
  if name.isEmpty then none
  else if endsInNumber name then do
    let numbers ← (labels name).mapM number?
    return short (← bytesOf? numbers)
  else some (Host.name (String.ofList name))

/-- A host on the web. -/
def onWeb? : List Char → Option Host
  | '[' :: cs => bracketed? cs
  | cs => do
    let name ← Utf8.decodeChars? (Percent.decode cs)
    ofName? (← DomainName.toAscii name)

/-- Characters that do not stand in a host that is only a text. -/
def isReserved (c : Char) : Bool :=
  c = '\x00' || c = '\t' || c = '\n' || c = '\r' ||
    [' ', '#', '/', ':', '<', '>', '?', '@', '[', '\\', ']', '^', '|'].contains c

/-- A host elsewhere. -/
def elsewhere? : List Char → Option Host
  | '[' :: cs => bracketed? cs
  | cs =>
    if cs.any isReserved then none
    else some (Host.name (String.ofList (Percent.encode Percent.isOutside cs)))

/-! ## Writing -/

/-- The text of a host. -/
def text : Host → String
  | name text => text
  | short bytes => HostAddress.bytesText bytes
  | long groups => "[" ++ HostAddress.shortestText groups ++ "]"

end Host

end RelayHub
