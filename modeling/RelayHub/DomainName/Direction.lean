/-
Names in scripts that run from right to left.

If any label of a name has characters that run from right to left, then each
label must run in one direction as a whole, so that the name can be told from
how it is shown. A label runs in the direction of its first character. One that
runs from left to right has no characters that run the other way, and ends in a
letter or a digit. One that runs from right to left has no letters that run the
other way, ends in a letter or a digit, and has digits of one kind only. Marks
may follow the end.
-/
import RelayHub.DomainName.DirectionTable

set_option autoImplicit false

namespace RelayHub.DomainName

/-- How a character takes part in the direction of a label. -/
inductive Flow where
  /-- A letter that runs from left to right. -/
  | rightward
  /-- A letter that runs from right to left. -/
  | leftward
  /-- A digit of Europe. -/
  | digit
  /-- A digit of Arabia. -/
  | arabicDigit
  /-- A mark on the character before. -/
  | mark
  /-- Anything else. -/
  | neutral
deriving DecidableEq, Repr

/-- How an ASCII character takes part. -/
def asciiFlow (c : Char) : Flow :=
  if c.isAlpha then .rightward else if c.isDigit then .digit else .neutral

/-- How a character takes part. -/
def flowOf (c : Char) : Flow :=
  if isAscii c then asciiFlow c
  else if CodeTable.holds leftwardLetters c then .leftward
  else if CodeTable.holds arabicDigits c then .arabicDigit
  else if CodeTable.holds europeanDigits c then .digit
  else if CodeTable.holds attachedMarks c then .mark
  else if CodeTable.holds neutralSigns c then .neutral
  else .rightward

/-- Whether a label makes the direction of a name matter. -/
def isTwoWay (label : List Char) : Bool :=
  !label.all isAscii && (label.map flowOf).any fun f => f = .leftward || f = .arabicDigit

/-- The last character of a label before the marks at its end. -/
def lastFlow? (flows : List Flow) : Option Flow :=
  (flows.reverse.dropWhile (· = .mark)).head?

/-- Whether a label runs from left to right throughout. -/
def runsRight (flows : List Flow) : Bool :=
  flows.all (fun f => f ≠ .leftward && f ≠ .arabicDigit) &&
    (lastFlow? flows).any fun f => f = .rightward || f = .digit

/-- Whether a label runs from right to left throughout. -/
def runsLeft (flows : List Flow) : Bool :=
  !flows.contains .rightward &&
    !(flows.contains .digit && flows.contains .arabicDigit) &&
      (lastFlow? flows).any fun f => f = .leftward || f = .digit || f = .arabicDigit

/-- Whether a label runs in one direction. -/
def isOneWay (label : List Char) : Bool :=
  match label.map flowOf with
  | [] => true
  | .rightward :: rest => runsRight (.rightward :: rest)
  | .leftward :: rest => runsLeft (.leftward :: rest)
  | _ => false

/-- Whether the labels of a name run in one direction each, if that matters. -/
def areOneWay (labels : List (List Char)) : Bool :=
  !labels.any isTwoWay || labels.all isOneWay

end RelayHub.DomainName
