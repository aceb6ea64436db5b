/-
UTF-8, read in one pass.

A byte string is cut into pieces: characters, and flaws where no character can
be read. A flaw is the longest run of bytes that begins some character but
does not finish one, so each flaw is as long as it can be without swallowing a
byte that could begin the next character. Everything else is a view of the
pieces: strict reading accepts when no piece is a flaw, lossy reading puts the
replacement character in the place of each flaw, and the first flaw says where
and why strict reading fails.
-/
import RelayHub.Bytes

set_option autoImplicit false

namespace RelayHub.Utf8

/-! ## Writing -/

/-- The bytes of one character. -/
def encodeChar (c : Char) : Bytes :=
  let n := c.toNat
  if n < 0x80 then [UInt8.ofNat n]
  else if n < 0x800 then [UInt8.ofNat (0xC0 + n / 64), UInt8.ofNat (0x80 + n % 64)]
  else if n < 0x10000 then
    [UInt8.ofNat (0xE0 + n / 4096), UInt8.ofNat (0x80 + n / 64 % 64), UInt8.ofNat (0x80 + n % 64)]
  else
    [UInt8.ofNat (0xF0 + n / 262144), UInt8.ofNat (0x80 + n / 4096 % 64),
     UInt8.ofNat (0x80 + n / 64 % 64), UInt8.ofNat (0x80 + n % 64)]

/-- The bytes of a list of characters. -/
def encodeChars (cs : List Char) : Bytes :=
  cs.flatMap encodeChar

/-- The bytes of a text. -/
def encode (s : String) : Bytes :=
  encodeChars s.toList

/-! ## Reading -/

/-- A piece of a byte string: a character, or a flaw of `length` bytes, which
is `truncated` when the byte string ends inside it. -/
inductive Piece where
  | char (c : Char)
  | flaw (length : Nat) (truncated : Bool)
deriving DecidableEq, Repr

/-- A character that has begun: the value so far, how many bytes are still to
come, the bounds of the next one, and how many have been read. -/
structure Pending where
  value : Nat
  more : Nat
  lowest : UInt8
  highest : UInt8
  taken : Nat
deriving DecidableEq, Repr

/-- What a byte does between characters. The bounds on the second byte leave
out overlong forms, surrogates and values past the last code point. -/
def start (b : UInt8) : Piece ⊕ Pending :=
  let n := b.toNat
  if n < 0x80 then .inl (.char (Char.ofNat n))
  else if n < 0xC2 then .inl (.flaw 1 false)
  else if n < 0xE0 then .inr ⟨n - 0xC0, 1, 0x80, 0xBF, 1⟩
  else if n = 0xE0 then .inr ⟨0, 2, 0xA0, 0xBF, 1⟩
  else if n = 0xED then .inr ⟨0xD, 2, 0x80, 0x9F, 1⟩
  else if n < 0xF0 then .inr ⟨n - 0xE0, 2, 0x80, 0xBF, 1⟩
  else if n = 0xF0 then .inr ⟨0, 3, 0x90, 0xBF, 1⟩
  else if n < 0xF4 then .inr ⟨n - 0xF0, 3, 0x80, 0xBF, 1⟩
  else if n = 0xF4 then .inr ⟨4, 3, 0x80, 0x8F, 1⟩
  else .inl (.flaw 1 false)

/-- Cuts a byte string into pieces, from inside a character or between two. -/
def scan : Option Pending → Bytes → List Piece
  | none, [] => []
  | some p, [] => [.flaw p.taken true]
  | none, b :: rest =>
    match start b with
    | .inl piece => piece :: scan none rest
    | .inr p => scan (some p) rest
  | some p, b :: rest =>
    if p.lowest ≤ b ∧ b ≤ p.highest then
      let value := p.value * 64 + (b.toNat - 0x80)
      if p.more ≤ 1 then .char (Char.ofNat value) :: scan none rest
      else scan (some ⟨value, p.more - 1, 0x80, 0xBF, p.taken + 1⟩) rest
    else
      .flaw p.taken false ::
        match start b with
        | .inl piece => piece :: scan none rest
        | .inr p => scan (some p) rest

/-- The pieces of a byte string. -/
def pieces (bytes : Bytes) : List Piece :=
  scan none bytes

/-- The character of a piece. -/
def Piece.char? : Piece → Option Char
  | .char c => some c
  | .flaw _ _ => none

/-- The characters of a byte string, if it is UTF-8 throughout. -/
def decodeChars? (bytes : Bytes) : Option (List Char) :=
  (pieces bytes).mapM Piece.char?

/-- The text of a byte string, if it is UTF-8 throughout. -/
def decode? (bytes : Bytes) : Option String :=
  (decodeChars? bytes).map String.ofList

/-- The text of a byte string, with U+FFFD in the place of each flaw. -/
def decodeLossy (bytes : Bytes) : String :=
  String.ofList ((pieces bytes).map fun p => p.char?.getD '\uFFFD')

/-! ## Where reading fails -/

/-- Why a byte string is not UTF-8: how many bytes before the first flaw can
be read, and how long the flaw is unless the byte string ends inside it. -/
structure Flaw where
  validUpTo : Nat
  length : Option Nat
deriving DecidableEq, Repr

/-- The first flaw of a list of pieces, `before` bytes having been read. -/
def firstFlaw (before : Nat) : List Piece → Option Flaw
  | [] => none
  | .char c :: rest => firstFlaw (before + (encodeChar c).length) rest
  | .flaw length truncated :: _ => some ⟨before, if truncated then none else some length⟩

/-- The first flaw of a byte string. -/
def flaw? (bytes : Bytes) : Option Flaw :=
  firstFlaw 0 (pieces bytes)

/-- The sentence that reports a flaw. -/
def Flaw.message (f : Flaw) : String :=
  match f.length with
  | some n =>
    "invalid utf-8 sequence of " ++ toString n ++ " bytes from index " ++ toString f.validUpTo
  | none => "incomplete utf-8 byte sequence from index " ++ toString f.validUpTo

end RelayHub.Utf8
