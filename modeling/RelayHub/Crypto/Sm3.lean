/-
The digest SM3.
-/
import RelayHub.Crypto.Block

set_option autoImplicit false

namespace RelayHub.Crypto

namespace Sm3

/-- The state before the first block. -/
def start : Registers :=
  ⟨0x7380166f, 0x4914b2b9, 0x172442d7, 0xda8a0600, 0xa96f30bc, 0x163138aa, 0xe38dee4d, 0xb0fb0e4e⟩

/-! ## Rounds -/

/-- The permutation within the compression function. -/
def p0 (x : UInt32) : UInt32 :=
  x ^^^ rotate x 9 ^^^ rotate x 17

/-- The permutation within the message expansion. -/
def p1 (x : UInt32) : UInt32 :=
  x ^^^ rotate x 15 ^^^ rotate x 23

/-- The word that follows the words so far, given last first. -/
def nextWord (reversed : List UInt32) : UInt32 :=
  let back (i : Nat) : UInt32 := reversed.getD (i - 1) 0
  p1 (back 16 ^^^ back 9 ^^^ rotate (back 3) 15) ^^^ rotate (back 13) 7 ^^^ back 6

/-- The 68 words of a block, the first sixteen as they stand. -/
def schedule (block : List UInt32) : List UInt32 :=
  ((List.range 52).foldl (fun ws _ => nextWord ws :: ws) block.reverse).reverse

/-- A word rotated left by any amount. -/
def spin (w : UInt32) (count : Nat) : UInt32 :=
  if count % 32 = 0 then w else rotate w (UInt32.ofNat (count % 32))

/-- One round, with its number, its word and the word four places on. -/
def round (r : Registers) (j : Nat) (w v : UInt32) : Registers :=
  let early := decide (j < 16)
  let constant : UInt32 := if early then 0x79cc4519 else 0x7a879d8a
  let ss1 := rotate (rotate r.a 12 + r.e + spin constant j) 7
  let ss2 := ss1 ^^^ rotate r.a 12
  let ff :=
    if early then r.a ^^^ r.b ^^^ r.c else (r.a &&& r.b) ||| (r.a &&& r.c) ||| (r.b &&& r.c)
  let gg := if early then r.e ^^^ r.f ^^^ r.g else (r.e &&& r.f) ||| ((~~~ r.e) &&& r.g)
  let t1 := ff + r.d + ss2 + (w ^^^ v)
  let t2 := gg + r.h + ss1 + w
  ⟨t1, r.a, rotate r.b 9, r.c, p0 t2, r.e, rotate r.f 19, r.g⟩

/-- Runs the rounds from number `j` on, with the words still to come. -/
def rounds (r : Registers) (j : Nat) : List UInt32 → Registers
  | w :: w1 :: w2 :: w3 :: v :: rest =>
    rounds (round r j w v) (j + 1) (w1 :: w2 :: w3 :: v :: rest)
  | _ => r

/-- The state after a block. -/
def compress (r : Registers) (block : List UInt32) : Registers :=
  r.zip (· ^^^ ·) (rounds r 0 (schedule block))

end Sm3

/-- The SM3 digest of a message. -/
def sm3 (message : Bytes) : Bytes :=
  digest Sm3.start Sm3.compress message

end RelayHub.Crypto
