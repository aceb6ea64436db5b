/-
The addresses of hosts, as numbers.

A host has four bytes, written in base ten with dots between them and without
leading zeros, or eight groups of two bytes, written in base sixteen with colons
between them. Once in an address a double colon may stand for any number of
zero groups, at least one, and the last two groups may be written as four bytes.
The shortest text of eight groups leaves out the longest run of zero groups, the
first of those of one length, unless it is a single group.
-/
import RelayHub.Text.Digits
import RelayHub.Text.Reader

set_option autoImplicit false

namespace RelayHub.HostAddress

open Reader

/-! ## Reading -/

/-- A byte: at most three digits, the first of them a zero only if it is the
only one. -/
def byte : Reader UInt8 := do
  let digits ← several (isDigitIn 10)
  guarded (digits.length ≤ 3 && (digits.length = 1 || digits.head? ≠ some '0'))
  guarded (numberOf 10 digits < 256)
  return .ofNat (numberOf 10 digits)

/-- The four bytes of a host. -/
def fourBytes : Reader (UInt8 × UInt8 × UInt8 × UInt8) := do
  let a ← byte
  char '.'
  let b ← byte
  char '.'
  let c ← byte
  char '.'
  let d ← byte
  return (a, b, c, d)

/-- A group: at most four digits. -/
def group : Reader UInt16 := do
  let digits ← several (isDigitIn 16)
  guarded (digits.length ≤ 4)
  return .ofNat (numberOf 16 digits)

/-- Two bytes as a group. -/
def groupOf (high low : UInt8) : UInt16 :=
  .ofNat (high.toNat * 256 + low.toNat)

/-- As many groups as there are, up to `most`; all but the first come after a
colon. Two groups written as four bytes are the last ones; whether there were
such is answered too. -/
def groups (first : Bool) : (most : Nat) → Reader (List UInt16 × Bool)
  | 0 => pure ([], false)
  | most + 1 => fun cs =>
    let colon : Reader Unit := if first then pure () else char ':'
    let bytes : Reader (UInt8 × UInt8 × UInt8 × UInt8) := do
      guarded (0 < most)
      colon
      fourBytes
    match bytes cs with
    | some ((a, b, c, d), cs) => some (([groupOf a b, groupOf c d], true), cs)
    | none =>
      match (do colon; group : Reader UInt16) cs with
      | none => some (([], false), cs)
      | some (g, cs) => (groups false most cs).map fun ((gs, bytes), cs) => ((g :: gs, bytes), cs)

/-- The eight groups of a host. -/
def eightGroups : Reader (List UInt16) := do
  let (front, bytes) ← groups true 8
  if front.length = 8 then return front
  guarded (!bytes)
  chars [':', ':']
  let (back, _) ← groups true (7 - front.length)
  return front ++ List.replicate (8 - front.length - back.length) 0 ++ back

/-! ## Writing -/

/-- Bytes with dots between them. -/
def bytesText (bytes : List UInt8) : String :=
  String.intercalate "." (bytes.map fun b => toString b.toNat)

/-- Groups with colons between them. -/
def groupsText (groups : List UInt16) : String :=
  String.intercalate ":" (groups.map fun g => String.ofList (Nat.toDigits 16 g.toNat))

/-- The two bytes of a group. -/
def bytesOf (g : UInt16) : List UInt8 :=
  [.ofNat (g.toNat / 256), .ofNat g.toNat]

/-- How many zeros a list begins with. -/
def leadingZeros (groups : List UInt16) : Nat :=
  (groups.takeWhile (· = 0)).length

/-- Where the longest run of zeros begins, and how long it is; of two of one
length the first counts. -/
def longestZeros (groups : List UInt16) : Nat × Nat :=
  (List.range groups.length).foldl (fun best start =>
    let length := leadingZeros (groups.drop start)
    if best.2 < length then (start, length) else best) (0, 0)

/-- The shortest text of a host of eight groups. -/
def shortestText (groups : List UInt16) : String :=
  let (start, length) := longestZeros groups
  if 1 < length then
    groupsText (groups.take start) ++ "::" ++ groupsText (groups.drop (start + length))
  else groupsText groups

end RelayHub.HostAddress
