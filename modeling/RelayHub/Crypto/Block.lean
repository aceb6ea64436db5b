/-
What the two digests have in common: words of 32 bits, padding to whole blocks
of 64 bytes, and folding a compression function over the blocks.

A padded message ends in a one bit, zeros, and its length in bits in eight
bytes, so that distinct messages stay distinct when they are padded.
-/
import RelayHub.Bytes

set_option autoImplicit false

namespace RelayHub.Crypto

/-! ## Words -/

/-- A word rotated left. -/
def rotate (w : UInt32) (count : UInt32) : UInt32 :=
  (w <<< count) ||| (w >>> (32 - count))

/-- The words of a byte string, four bytes each, most significant first. -/
def words : Bytes → List UInt32
  | a :: b :: c :: d :: rest =>
    ((a.toUInt32 <<< 24) ||| (b.toUInt32 <<< 16) ||| (c.toUInt32 <<< 8) ||| d.toUInt32) ::
      words rest
  | _ => []

/-- The four bytes of a word, most significant first. -/
def wordBytes (w : UInt32) : Bytes :=
  [(w >>> 24).toUInt8, (w >>> 16).toUInt8, (w >>> 8).toUInt8, w.toUInt8]

/-- Eight words, the state of a digest. -/
structure Registers where
  a : UInt32
  b : UInt32
  c : UInt32
  d : UInt32
  e : UInt32
  f : UInt32
  g : UInt32
  h : UInt32
deriving DecidableEq, Repr

namespace Registers

/-- Combines two states word by word. -/
def zip (f : UInt32 → UInt32 → UInt32) (x y : Registers) : Registers :=
  ⟨f x.a y.a, f x.b y.b, f x.c y.c, f x.d y.d, f x.e y.e, f x.f y.f, f x.g y.g, f x.h y.h⟩

/-- The 32 bytes of a state. -/
def bytes (r : Registers) : Bytes :=
  [r.a, r.b, r.c, r.d, r.e, r.f, r.g, r.h].flatMap wordBytes

end Registers

/-! ## Blocks -/

/-- A message with its padding. -/
def pad (message : Bytes) : Bytes :=
  let zeros := (119 - message.length % 64) % 64
  message ++ 0x80 :: List.replicate zeros 0 ++
    Bytes.ofWordBE (UInt64.ofNat (8 * message.length))

/-- Cuts a list into blocks of 64, of which there are at most `count`. -/
def blocks : (count : Nat) → Bytes → List Bytes
  | 0, _ => []
  | count + 1, bytes =>
    if bytes.isEmpty then [] else bytes.take 64 :: blocks count (bytes.drop 64)

/-- Folds a compression function over the blocks of a padded message. -/
def digest (start : Registers) (compress : Registers → List UInt32 → Registers)
    (message : Bytes) : Bytes :=
  let padded := pad message
  ((blocks (padded.length / 64) padded).foldl (fun r block => compress r (words block)) start).bytes

end RelayHub.Crypto
