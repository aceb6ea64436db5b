/-
The address that a hub listens on: an address of a host, and a port.

A host has four bytes, or eight groups of two bytes, which are put in brackets
and may be followed by a scope. Each address has one standard text.
-/
import RelayHub.Net.HostAddress
import RelayHub.Numeric.Power

set_option autoImplicit false

namespace RelayHub

/-- An address to listen on. The long kind may name a scope; zero is none. -/
inductive SocketAddress where
  | short (bytes : List UInt8) (port : UInt16)
  | long (groups : List UInt16) (scope : UInt32) (port : UInt16)
deriving DecidableEq, Repr

namespace SocketAddress

open HostAddress Reader

/-! ## Reading -/

/-- A number in a base below a bound, with any number of digits. -/
def numberBelow (base bound : Nat) : Reader Nat := do
  let n := numberOf base (← several (isDigitIn base))
  guarded (n < bound)
  return n

/-- The port after a colon. -/
def port : Reader UInt16 := do
  char ':'
  return .ofNat (← numberBelow 10 (twoTo 16))

/-- An address of the short kind. -/
def shortAddress : Reader SocketAddress := do
  let (a, b, c, d) ← fourBytes
  return short [a, b, c, d] (← port)

/-- An address of the long kind. -/
def longAddress : Reader SocketAddress := do
  char '['
  let host ← eightGroups
  let scope ← Reader.optional do
    char '%'
    numberBelow 10 (twoTo 32)
  char ']'
  return long host (.ofNat (scope.getD 0)) (← port)

/-- The address with this text. -/
def ofString? (s : String) : Option SocketAddress :=
  ((do
    let a ← orElse shortAddress longAddress
    atEnd
    return a : Reader SocketAddress) s.toList).map Prod.fst

/-! ## Writing -/

/-- The text of a host of the long kind. A host that stands for one of the
short kind shows its bytes. -/
def hostText (groups : List UInt16) : String :=
  match groups with
  | [0, 0, 0, 0, 0, 0xFFFF, high, low] => "::ffff:" ++ bytesText (bytesOf high ++ bytesOf low)
  | _ => shortestText groups

/-- The standard text of an address. -/
def text : SocketAddress → String
  | short bytes port => bytesText bytes ++ ":" ++ toString port.toNat
  | long groups scope port =>
    "[" ++ hostText groups ++ (if scope = 0 then "" else "%" ++ toString scope.toNat) ++ "]:" ++
      toString port.toNat

end SocketAddress

end RelayHub
