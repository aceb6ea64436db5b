/-
Shapes of JSON values, each with its reader and its writer.

A codec reads one value and writes one value, compactly. The basic codecs are
texts, hexadecimal byte strings, whole numbers of a given range, choices of a
name, values that may be null, and lists; records are put together in
`RelayHub.Json.Record`. A whole text is read by a codec followed by nothing
but blanks.
-/
import RelayHub.Json.Scan

set_option autoImplicit false

namespace RelayHub.Json

/-- A shape of JSON values that denote elements of `α`. -/
structure Codec (α : Type) where
  read : Bytes → Outcome α
  write : α → Bytes

variable {α β : Type}

/-! ## Writing -/

/-- The bytes of an ASCII text, as they stand in this library's own constants. -/
def ascii (s : String) : Bytes :=
  Utf8.encode s

/-- The letter that stands for a control character after a backslash. -/
def shortControl? (c : Char) : Option UInt8 :=
  if c.toNat = 8 then some 0x62
  else if c.toNat = 9 then some 0x74
  else if c.toNat = 10 then some 0x6E
  else if c.toNat = 12 then some 0x66
  else if c.toNat = 13 then some 0x72
  else none

/-- The hexadecimal digit of a number below sixteen, as a byte. -/
def hexDigit (n : Nat) : UInt8 :=
  UInt8.ofNat (Hex.digit n).toNat

/-- One character inside a string. -/
def writeChar (c : Char) : Bytes :=
  if c.toNat = 0x22 then [backslash, quote]
  else if c.toNat = 0x5C then [backslash, backslash]
  else if c.toNat < 0x20 then
    match shortControl? c with
    | some letter => [backslash, letter]
    | none => [backslash, 0x75, 0x30, 0x30, hexDigit (c.toNat / 16), hexDigit (c.toNat % 16)]
  else Utf8.encodeChar c

/-- A string with its quotes. -/
def writeText (s : String) : Bytes :=
  quote :: s.toList.flatMap writeChar ++ [quote]

/-- The decimal digits of a natural number. -/
def writeNat (n : Nat) : Bytes :=
  (Nat.toDigits 10 n).map fun c => UInt8.ofNat c.toNat

/-- A whole number. -/
def writeInt (n : Int) : Bytes :=
  if n < 0 then minus :: writeNat n.natAbs else writeNat n.natAbs

/-- Items separated by commas. -/
def separated : List Bytes → Bytes
  | [] => []
  | [item] => item
  | item :: items => item ++ comma :: separated items

/-! ## Basic shapes -/

namespace Codec

/-- The same shape with other elements. -/
def imap (c : Codec α) (forth : α → β) (back : β → α) : Codec β where
  read rest := (c.read rest).map forth
  write v := c.write (back v)

/-- A text. -/
def text : Codec String where
  read rest :=
    match skipBlanks rest with
    | [] => faultAtNext .endOfValue []
    | b :: tail => if b = quote then stringBody tail else wrongType "a string" (b :: tail)
  write := writeText

/-- A byte string, as hexadecimal text. -/
def hex : Codec Bytes where
  read rest :=
    (text.read rest).andThen fun s rest =>
      match Hex.decode s with
      | .ok bytes => .ok bytes rest
      | .error e => .rejected (.badHex e) rest
  write bytes := writeText (Hex.encode bytes)

/-- A whole number from `low` to `high`; `name` is what a fault calls the
range. -/
def whole (name : String) (low high : Int) : Codec Int where
  read rest :=
    match skipBlanks rest with
    | [] => faultAtNext .endOfValue []
    | b :: tail =>
      let accept (n : Number) (rest : Bytes) : Outcome Int :=
        match n with
        | .whole k =>
          if low ≤ k ∧ k ≤ high then .ok k rest
          else faultHere (.wrongValue (.number n) name) rest
        | .fraction _ => faultHere (.wrongType (.number n) name) rest
      if b = minus then (number true tail).andThen accept
      else if isDigit b then (number false (b :: tail)).andThen accept
      else wrongType name (b :: tail)
  write := writeInt

/-- A word of 64 bits. -/
def word (name : String) : Codec UInt64 :=
  (whole name 0 (twoTo 64 - 1)).imap (fun n => UInt64.ofNat n.toNat) (fun w => (w.toNat : Int))

/-- A word of 64 bits, of the range faults call `u64`. -/
def u64 : Codec UInt64 := word "u64"

/-- A signed word of 64 bits. -/
def i64 : Codec Int64 :=
  (whole "i64" (-(twoTo 63 : Int)) (twoTo 63 - 1)).imap Int64.ofInt Int64.toInt

/-- A signed word of 32 bits. -/
def i32 : Codec Int32 :=
  (whole "i32" (-(twoTo 31 : Int)) (twoTo 31 - 1)).imap Int32.ofInt Int32.toInt

/-- A value or null. -/
def optional (c : Codec α) : Codec (Option α) where
  read rest :=
    match skipBlanks rest with
    | 0x6E :: tail => (literal [0x75, 0x6C, 0x6C] tail).map fun _ => none
    | rest => (c.read rest).map some
  write
    | none => ascii "null"
    | some v => c.write v

/-! ## Choices -/

/-- The element that a name stands for. -/
def ofName (names : List (String × α)) (name : String) (rest : Bytes) : Outcome α :=
  match names.lookup name with
  | some v => .ok v rest
  | none => faultHere (.unknownVariant name (names.map Prod.fst)) rest

/-- Reads the null that may stand beside a name. -/
def unit (rest : Bytes) : Outcome Unit :=
  match skipBlanks rest with
  | [] => faultAtNext .endOfValue []
  | b :: tail =>
    if b = 0x6E then literal [0x75, 0x6C, 0x6C] tail else wrongType "unit" (b :: tail)

/-- Reads a colon. -/
def readColon (rest : Bytes) : Outcome Unit :=
  match skipBlanks rest with
  | [] => faultAtNext .endOfObject []
  | b :: tail => if b = colon then .ok () tail else faultAtNext .expectedColon (b :: tail)

/-- Reads the only key of an object, after the opening brace. -/
def onlyKey (rest : Bytes) : Outcome String :=
  match skipBlanks rest with
  | [] => faultAtNext .endOfObject []
  | b :: tail =>
    if b = quote then stringBody tail
    else if b = closeBrace then faultAtNext .expectedValue (b :: tail)
    else faultAtNext .keyNotText (b :: tail)

/-- One of the named elements: its name, or an object with the name as its
only key and null as the value. `nameOf` gives the name that is written. -/
def choice (names : List (String × α)) (nameOf : α → String) : Codec α where
  read rest :=
    match skipBlanks rest with
    | [] => faultAtNext .endOfValue []
    | b :: tail =>
      if b = quote then (stringBody tail).andThen (ofName names)
      else if b = openBrace then
        (onlyKey tail).andThen fun name rest =>
          (ofName names name rest).andThen fun v rest =>
            (readColon rest).andThen fun _ rest =>
              (unit rest).andThen fun _ rest =>
                match skipBlanks rest with
                | [] => faultHere .endOfObject []
                | b :: tail =>
                  if b = closeBrace then .ok v tail else faultHere .expectedValue (b :: tail)
      else faultAtNext .expectedValue (b :: tail)
  write v := writeText (nameOf v)

/-! ## Lists -/

/-- Where a reader stands after it has tried to close a list. -/
def afterListEnd (rest : Bytes) : Bytes :=
  match skipBlanks rest with
  | [] => []
  | b :: tail =>
    if b = closeBracket then tail else if b = comma then skipBlanks tail else b :: tail

/-- How many items of a list there are, the first of which comes next. -/
def countItems (fuel : Nat) (rest : Bytes) : Nat :=
  match fuel with
  | 0 => 0
  | fuel + 1 =>
    match skipValue rest with
    | .ok () after =>
      match skipBlanks after with
      | 0x2C :: more => countItems fuel more + 1
      | _ => 1
    | _ => 0

/-- Closes a list that can hold as many items as `room` says. A rejection inside
it takes its place here. -/
def closeList (room : Nat) (o : Outcome α) : Outcome α :=
  match o with
  | .ok v rest =>
    match skipBlanks rest with
    | [] => faultAtNext .endOfList []
    | b :: tail =>
      if b = closeBracket then .ok v tail
      else if b = comma then
        match skipBlanks tail with
        | 0x5D :: more => faultAtNext .trailingComma (0x5D :: more)
        | rest => faultAtNext (.surplusItems (room + countItems rest.length rest)) rest
      else faultAtNext .trailingCharacters (b :: tail)
  | .rejected reason rest => faultHere reason (afterListEnd rest)
  | .malformed reason left => .malformed reason left

/-- Whether another item of a list comes; if one does, the answer holds the
bytes where it begins, otherwise those before the closing bracket. -/
def nextItem (first : Bool) (rest : Bytes) : Outcome Bool :=
  match skipBlanks rest with
  | [] => faultAtNext .endOfList []
  | b :: tail =>
    if b = closeBracket then .ok false (b :: tail)
    else if first then .ok true (b :: tail)
    else if b = comma then
      match skipBlanks tail with
      | [] => faultAtNext .endOfValue []
      | c :: more =>
        if c = closeBracket then faultAtNext .trailingComma (c :: more) else .ok true (c :: more)
    else faultAtNext .expectedCommaOrBracket (b :: tail)

/-- Reads the items of a list up to its closing bracket. Every item takes a
byte, so the bytes left are fuel enough. -/
def readItems (c : Codec α) (fuel : Nat) (first : Bool) (rest : Bytes) : Outcome (List α) :=
  match fuel with
  | 0 => faultHere .endOfList rest
  | fuel + 1 =>
    (nextItem first rest).andThen fun more rest =>
      if more then
        (c.read rest).andThen fun v rest =>
          (readItems c fuel false rest).map (v :: ·)
      else .ok [] rest

/-- A list. -/
def list (c : Codec α) : Codec (List α) where
  read rest :=
    match skipBlanks rest with
    | [] => faultAtNext .endOfValue []
    | b :: tail =>
      if b = openBracket then closeList tail.length (readItems c (tail.length + 1) true tail)
      else wrongType "a sequence" (b :: tail)
  write vs := openBracket :: separated (vs.map c.write) ++ [closeBracket]

/-! ## Whole texts -/

/-- Reads a whole text. -/
def decode (c : Codec α) (text : Bytes) : Except Fault α :=
  let finished : Outcome α :=
    (c.read text).andThen fun v rest =>
      match skipBlanks rest with
      | [] => .ok v []
      | rest => faultAtNext .trailingCharacters rest
  match finished with
  | .ok v _ => .ok v
  | .rejected reason _ => .error ⟨reason, none⟩
  | .malformed reason left => .error ⟨reason, some (Place.after (text.take (text.length - left)))⟩

/-- Reads a whole text given as a string. -/
def decodeText (c : Codec α) (text : String) : Except Fault α :=
  c.decode (Utf8.encode text)

/-- The text of a value, as a string. -/
def encodeText (c : Codec α) (v : α) : String :=
  Utf8.decodeLossy (c.write v)

end Codec

end RelayHub.Json
