/-
What can be wrong with a JSON text, and where.

A fault has a reason and a place. Reasons of two kinds occur: the text is not
JSON, or it is JSON that does not fit the shape it is read as. The place is
kept as the number of bytes left unread, which needs no counting while the
text is read; line and column are worked out once, from the whole text.
-/
import RelayHub.Numeric.Binary64
import RelayHub.Text.Hex

set_option autoImplicit false

namespace RelayHub.Json

/-! ## What was found -/

/-- A number as read: a whole number that fits 64 bits with its sign, or the
nearest floating point number. -/
inductive Number where
  | whole (n : Int)
  | fraction (x : Binary64)
deriving DecidableEq, Repr

/-- A value that stands where another kind of value was wanted. -/
inductive Found where
  | null
  | boolean (b : Bool)
  | number (n : Number)
  | text (s : String)
  | sequence
  | map
deriving DecidableEq, Repr

/-- How a fault names the value it found. -/
def Found.describe : Found → String
  | .null => "null"
  | .boolean b => "boolean `" ++ (if b then "true" else "false") ++ "`"
  | .number (.whole n) => "integer `" ++ toString n ++ "`"
  | .number (.fraction x) => "floating point `" ++ x.text ++ "`"
  | .text s => "string " ++ Quoted.text s
  | .sequence => "sequence"
  | .map => "map"

/-! ## Reasons -/

/-- Why a text cannot be read. -/
inductive Reason where
  | endOfList
  | endOfObject
  | endOfString
  | endOfValue
  | expectedColon
  | expectedCommaOrBracket
  | expectedCommaOrBrace
  | expectedIdent
  | expectedValue
  | badEscape
  | badNumber
  | numberOutOfRange
  | badCodePoint
  | controlCharacter
  | keyNotText
  | loneSurrogate
  | trailingComma
  | trailingCharacters
  | surplusItems (length : Nat)
  | unfinishedEscape
  | wrongType (found : Found) (expected : String)
  | wrongValue (found : Found) (expected : String)
  | wrongLength (length : Nat) (expected : String)
  | missingField (name : String)
  | duplicateField (name : String)
  | unknownVariant (name : String) (known : List String)
  | badHex (error : Hex.Error)
deriving DecidableEq, Repr

/-- A list of names as alternatives. -/
def oneOf (names : List String) : String :=
  let quoted := names.map fun n => "`" ++ n ++ "`"
  match quoted with
  | [] => "there are no variants"
  | [a] => "expected " ++ a
  | [a, b] => "expected " ++ a ++ " or " ++ b
  | _ => "expected one of " ++ String.intercalate ", " quoted

/-- The sentence for a reason. -/
def Reason.message : Reason → String
  | .endOfList => "EOF while parsing a list"
  | .endOfObject => "EOF while parsing an object"
  | .endOfString => "EOF while parsing a string"
  | .endOfValue => "EOF while parsing a value"
  | .expectedColon => "expected `:`"
  | .expectedCommaOrBracket => "expected `,` or `]`"
  | .expectedCommaOrBrace => "expected `,` or `\x7d`"
  | .expectedIdent => "expected ident"
  | .expectedValue => "expected value"
  | .badEscape => "invalid escape"
  | .badNumber => "invalid number"
  | .numberOutOfRange => "number out of range"
  | .badCodePoint => "invalid unicode code point"
  | .controlCharacter => "control character (\\u0000-\\u001F) found while parsing a string"
  | .keyNotText => "key must be a string"
  | .loneSurrogate => "lone leading surrogate in hex escape"
  | .trailingComma => "trailing comma"
  | .trailingCharacters => "trailing characters"
  | .surplusItems _ => "trailing characters"
  | .unfinishedEscape => "unexpected end of hex escape"
  | .wrongType found expected => "invalid type: " ++ found.describe ++ ", expected " ++ expected
  | .wrongValue found expected => "invalid value: " ++ found.describe ++ ", expected " ++ expected
  | .wrongLength length expected =>
    "invalid length " ++ toString length ++ ", expected " ++ expected
  | .missingField name => "missing field `" ++ name ++ "`"
  | .duplicateField name => "duplicate field `" ++ name ++ "`"
  | .unknownVariant name known => "unknown variant `" ++ name ++ "`, " ++ oneOf known
  | .badHex error => error.message

/-- The reason as it is given for a value that is no part of a text: how long a
list is can then be told. -/
def Reason.ofValue : Reason → Reason
  | .surplusItems length => .wrongLength length "fewer elements in array"
  | reason => reason

/-! ## Places -/

/-- A place in a text: a line, counted from one, and the bytes read of it. -/
structure Place where
  line : Nat
  column : Nat
deriving DecidableEq, Repr

/-- The place reached after reading a list of bytes. -/
def Place.after (read : Bytes) : Place :=
  { line := 1 + read.count 10
    column := (read.reverse.takeWhile (· ≠ 10)).length }

/-- A reason with its place. A shape that no record or list encloses may be
refused without a place. -/
structure Fault where
  reason : Reason
  place : Option Place
deriving DecidableEq, Repr

/-- The sentence for a fault. -/
def Fault.message (f : Fault) : String :=
  match f.place with
  | some p => f.reason.message ++ " at line " ++ toString p.line ++ " column " ++ toString p.column
  | none => f.reason.message

end RelayHub.Json
