/-
The binary layout of stored records.

Words are eight bytes, least significant first. A text is its length and its
UTF-8 bytes; a byte string inside a record is the text of its hexadecimal
digits; an optional text is a zero byte, or a one byte and the text. Readers
take what they need from the front and leave the rest, so a record followed by
anything else still reads as that record.
-/
import RelayHub.Text.Hex

set_option autoImplicit false

namespace RelayHub.Layout

/-- Why stored bytes cannot be read. A text whose length is past the end is
told apart from a word or byte that is missing. -/
inductive Error where
  | endOfBytes
  | endInText
  | badText (flaw : Utf8.Flaw)
  | badTag (tag : UInt8)
  | badHex (error : Hex.Error)
deriving DecidableEq, Repr

/-- The sentence for an error. -/
def Error.message : Error → String
  | .endOfBytes => "io error: unexpected end of file"
  | .endInText => "io error: "
  | .badText flaw => "string is not valid utf8: " ++ flaw.message
  | .badTag tag => "tag for enum is not valid, found " ++ toString tag.toNat
  | .badHex error => error.message

/-! ## Words -/

/-- Writes a word. -/
def word (n : UInt64) : Bytes :=
  Bytes.ofWordLE n

/-- Reads a word. -/
def takeWord (bytes : Bytes) : Except Error (UInt64 × Bytes) :=
  match Bytes.takeWordLE? bytes with
  | some (n, rest) => .ok (n, rest)
  | none => .error .endOfBytes

/-- Writes a signed word. -/
def signed (n : Int64) : Bytes :=
  word n.toUInt64

/-- Reads a signed word. -/
def takeSigned (bytes : Bytes) : Except Error (Int64 × Bytes) :=
  (takeWord bytes).map fun (n, rest) => (n.toInt64, rest)

/-! ## Texts and byte strings -/

/-- Writes the length of a list as a word. -/
def length {α : Type} (items : List α) : Bytes :=
  word (UInt64.ofNat items.length)

/-- Writes a text. -/
def text (s : String) : Bytes :=
  let bytes := Utf8.encode s
  length bytes ++ bytes

/-- Reads a text. -/
def takeText (bytes : Bytes) : Except Error (String × Bytes) := do
  let (n, rest) ← takeWord bytes
  if rest.length < n.toNat then throw .endInText
  let body := rest.take n.toNat
  match Utf8.decode? body with
  | some s => return (s, rest.drop n.toNat)
  | none => throw (.badText ((Utf8.flaw? body).getD ⟨0, none⟩))

/-- Writes a byte string as hexadecimal text. -/
def hex (bytes : Bytes) : Bytes :=
  text (Hex.encode bytes)

/-- Reads a byte string from hexadecimal text. -/
def takeHex (bytes : Bytes) : Except Error (Bytes × Bytes) := do
  let (s, rest) ← takeText bytes
  match Hex.decode s with
  | .ok value => return (value, rest)
  | .error e => throw (.badHex e)

/-- Writes a text that may be absent. -/
def optionalText : Option String → Bytes
  | none => [0]
  | some s => 1 :: text s

/-- Reads a text that may be absent. -/
def takeOptionalText : Bytes → Except Error (Option String × Bytes)
  | [] => .error .endOfBytes
  | tag :: rest =>
    if tag = 0 then .ok (none, rest)
    else if tag = 1 then (takeText rest).map fun (s, rest) => (some s, rest)
    else .error (.badTag tag)

/-- Writes bytes as they are, after their number. -/
def block (bytes : Bytes) : Bytes :=
  length bytes ++ bytes

/-- Reads bytes as they are, after their number. -/
def takeBlock (bytes : Bytes) : Except Error (Bytes × Bytes) := do
  let (n, rest) ← takeWord bytes
  if rest.length < n.toNat then throw .endOfBytes
  return (rest.take n.toNat, rest.drop n.toNat)

end RelayHub.Layout
