/-
Byte strings, and the words and numbers that are laid out in them.

Payloads, signatures, store keys and file contents are all plain lists of
bytes, so that splitting and joining them is list reasoning. Words are written
out byte by byte, most or least significant first; numbers of any size are
read and written in base 256.
-/

set_option autoImplicit false

namespace RelayHub

/-- A byte string. -/
abbrev Bytes := List UInt8

namespace Bytes

/-! ## Words of 64 bits -/

/-- The eight bytes of a word, most significant first. -/
def ofWordBE (n : UInt64) : Bytes :=
  [(n >>> 56).toUInt8, (n >>> 48).toUInt8, (n >>> 40).toUInt8, (n >>> 32).toUInt8,
   (n >>> 24).toUInt8, (n >>> 16).toUInt8, (n >>> 8).toUInt8, n.toUInt8]

/-- The eight bytes of a word, least significant first. -/
def ofWordLE (n : UInt64) : Bytes :=
  [n.toUInt8, (n >>> 8).toUInt8, (n >>> 16).toUInt8, (n >>> 24).toUInt8,
   (n >>> 32).toUInt8, (n >>> 40).toUInt8, (n >>> 48).toUInt8, (n >>> 56).toUInt8]

/-- The word with these eight bytes, `a` the most significant. -/
def word (a b c d e f g h : UInt8) : UInt64 :=
  (a.toUInt64 <<< 56) ||| (b.toUInt64 <<< 48) ||| (c.toUInt64 <<< 40) ||| (d.toUInt64 <<< 32) |||
  (e.toUInt64 <<< 24) ||| (f.toUInt64 <<< 16) ||| (g.toUInt64 <<< 8) ||| h.toUInt64

/-- The word that exactly eight bytes hold, most significant first. -/
def toWordBE? : Bytes → Option UInt64
  | [a, b, c, d, e, f, g, h] => some (word a b c d e f g h)
  | _ => none

/-- The word at the head of a byte string, least significant byte first, and
what follows it. -/
def takeWordLE? : Bytes → Option (UInt64 × Bytes)
  | a :: b :: c :: d :: e :: f :: g :: h :: rest => some (word h g f e d c b a, rest)
  | _ => none

/-! ## Numbers in base 256 -/

/-- The number a byte string denotes, most significant byte first. -/
def toNat (bytes : Bytes) : Nat :=
  bytes.foldl (fun n b => n * 256 + b.toNat) 0

/-- The low `width` bytes of a number, most significant first. -/
def ofNat (width n : Nat) : Bytes :=
  (List.range width).map fun i => UInt8.ofNat (n >>> (8 * (width - 1 - i)))

/-! ## Order -/

/-- Whether one byte string stands before another in a dictionary. -/
def before : Bytes → Bytes → Bool
  | [], [] => false
  | [], _ :: _ => true
  | _ :: _, [] => false
  | a :: as, b :: bs => decide (a.toNat < b.toNat) || (a == b && before as bs)

theorem before_cons (a b : UInt8) (as bs : Bytes) :
    before (a :: as) (b :: bs) = true ↔ a.toNat < b.toNat ∨ (a = b ∧ before as bs = true) := by
  simp [before]

/-- What stands before a string that stands before another stands before that
one too. -/
theorem before_trans {x y z : Bytes} (hxy : before x y = true) (hyz : before y z = true) :
    before x z = true := by
  induction x generalizing y z with
  | nil => cases y <;> cases z <;> simp_all [before]
  | cons a as ih =>
    cases y with
    | nil => simp [before] at hxy
    | cons b bs =>
      cases z with
      | nil => simp [before] at hyz
      | cons c cs =>
        rw [before_cons] at *
        rcases hxy with hab | ⟨rfl, hab⟩ <;> rcases hyz with hbc | ⟨rfl, hbc⟩
        · exact .inl (Nat.lt_trans hab hbc)
        · exact .inl hab
        · exact .inl hbc
        · exact .inr ⟨rfl, ih hab hbc⟩

/-- Of two different strings, one stands before the other. -/
theorem before_of_not {x y : Bytes} (hne : x ≠ y) (h : before x y = false) :
    before y x = true := by
  induction x generalizing y with
  | nil => cases y <;> simp_all [before]
  | cons a as ih =>
    cases y with
    | nil => simp [before]
    | cons b bs =>
      rw [before_cons]
      have hn : ¬ before (a :: as) (b :: bs) = true := by simp [h]
      rw [before_cons, not_or, not_and] at hn
      by_cases hab : a = b
      · exact .inr ⟨hab.symm, ih (fun e => hne (by rw [hab, e])) (by simpa using hn.2 hab)⟩
      · refine .inl (Nat.lt_of_le_of_ne (Nat.le_of_not_lt hn.1) fun e => hab ?_)
        exact UInt8.toNat.inj e.symm

/-! ## Masks -/

/-- Bitwise exclusive or of every byte with one mask. -/
def mask (bytes : Bytes) (pad : UInt8) : Bytes :=
  bytes.map (· ^^^ pad)

end Bytes

end RelayHub
