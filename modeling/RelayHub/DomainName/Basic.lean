/-
The names of hosts.

A name is a list of labels with dots between them. Each character is replaced
by what it stands for and the whole is brought to its composed form. A label
that begins with `xn--` is the ASCII text of another one, which must be such
that it would have been left as it is. A label must not begin with a mark. A
label with characters past ASCII is written as the ASCII text that begins with
`xn--`. A name of ASCII characters alone is looked up in no table.
-/
import RelayHub.DomainName.Direction
import RelayHub.DomainName.Joining
import RelayHub.DomainName.Mapping
import RelayHub.DomainName.Punycode

set_option autoImplicit false

namespace RelayHub.DomainName

/-- Whether a character of ASCII has another meaning in an address, and so
stands in no name. -/
def isReserved (c : Char) : Bool :=
  c.toNat ≤ 0x20 || c.toNat = 0x7F ||
    ['%', '#', '/', ':', '<', '>', '?', '@', '[', '\\', ']', '^', '|'].contains c

/-- How the ASCII text of a label begins. -/
def codedStart : List Char := ['x', 'n', '-', '-']

/-- The most characters of a label that is written in ASCII. -/
def mostPlain : Nat := 1000

/-- The most characters of the ASCII text of a label, after its beginning. -/
def mostCoded : Nat := 2000

/-- A label: its characters, and its ASCII text. -/
structure Label where
  plain : List Char
  coded : List Char
deriving DecidableEq, Repr

/-- The label with an ASCII text, given after its beginning. -/
def ofCoded (text : List Char) : Option Label := do
  if text.isEmpty || text.getLast? = some '-' || mostCoded < text.length then none
  let plain ← Punycode.decode text
  if plain.all isSettled && Composition.composed plain = plain then
    some ⟨plain, codedStart ++ text⟩
  else none

/-- A label of mapped and composed characters. -/
def label? (cs : List Char) : Option Label :=
  if cs.any isReserved then none
  else if cs.take 4 = codedStart then
    if cs.all isAscii then ofCoded (cs.drop 4) else none
  else if cs.all isAscii then some ⟨cs, cs⟩
  else if mostPlain < cs.length then none
  else some ⟨cs, codedStart ++ Punycode.encode cs⟩

/-- Whether a label may stand by itself. -/
def Label.isSound (l : Label) : Bool :=
  l.plain.all isAscii ||
    (!(l.plain.head?.any (CodeTable.holds leadingMarks)) && joinsWell [] l.plain)

/-- The ASCII text of a name. -/
def toAscii (cs : List Char) : Option (List Char) := do
  let mapped ← mapName cs
  let labels ← (pieces (· = '.') (Composition.composed mapped)).mapM label?
  if labels.all Label.isSound && areOneWay (labels.map Label.plain) then
    some (List.intercalate ['.'] (labels.map Label.coded))
  else none

end RelayHub.DomainName
