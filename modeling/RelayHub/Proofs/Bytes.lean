/-
Byte strings in a dictionary, and as numbers.

A byte string denotes a number in base 256. Its first byte weighs more than all
that follows, so byte strings of one length stand in a dictionary as the numbers
stand that they denote. The eight bytes of a word, most significant first,
denote that word; so words are ordered as their bytes are.
-/
import Mathlib.Tactic.Ring
import RelayHub.Proofs.Word

set_option autoImplicit false

namespace RelayHub

namespace Bytes

/-! ## The order of a dictionary -/

/-- The order of keys is the one of lists. -/
theorem before_iff_lex (x y : Bytes) : before x y = true ↔ List.Lex (· < ·) x y := by
  induction x generalizing y with
  | nil => cases y <;> simp [before]
  | cons a as ih =>
    cases y with
    | nil => simp [before]
    | cons b bs => rw [before_cons, List.cons_lex_cons_iff, ih, UInt8.lt_iff_toNat_lt]

/-- What two strings begin with does not matter to their order, if it is the
same. -/
theorem before_append_left (start x y : Bytes) :
    before (start ++ x) (start ++ y) = before x y := by
  induction start with
  | nil => rfl
  | cons b start ih => simp [before, ih]

/-! ## Numbers in base 256 -/

/-- The first byte of a number weighs as much as all that can follow it. -/
theorem toNat_cons (b : UInt8) (bytes : Bytes) :
    toNat (b :: bytes) = b.toNat * 256 ^ bytes.length + toNat bytes := by
  have hfold (n : Nat) :
      bytes.foldl (fun n b => n * 256 + b.toNat) n = n * 256 ^ bytes.length + toNat bytes := by
    unfold toNat
    induction bytes generalizing n with
    | nil => simp
    | cons c bytes ih =>
      rw [List.foldl_cons, ih, List.foldl_cons, ih (0 * 256 + c.toNat), List.length_cons]
      ring
  rw [toNat, List.foldl_cons, hfold, Nat.zero_mul, Nat.zero_add]

theorem toNat_lt (bytes : Bytes) : toNat bytes < 256 ^ bytes.length := by
  induction bytes with
  | nil => decide
  | cons b bytes ih =>
    have hb : b.toNat < 256 := b.toNat_lt
    rw [toNat_cons, List.length_cons]
    calc b.toNat * 256 ^ bytes.length + toNat bytes
        < b.toNat * 256 ^ bytes.length + 256 ^ bytes.length := by omega
      _ = (b.toNat + 1) * 256 ^ bytes.length := by ring
      _ ≤ 256 * 256 ^ bytes.length := Nat.mul_le_mul_right _ hb
      _ = 256 ^ (bytes.length + 1) := by ring

/-- Byte strings of one length are ordered as the numbers that they denote. -/
theorem before_iff_toNat_lt {x y : Bytes} (hlength : x.length = y.length) :
    before x y = true ↔ toNat x < toNat y := by
  induction x generalizing y with
  | nil =>
    obtain rfl := List.length_eq_zero_iff.1 hlength.symm
    simp [before]
  | cons a as ih =>
    cases y with
    | nil => simp at hlength
    | cons b bs =>
      have hrest : as.length = bs.length := by simpa using hlength
      have has := toNat_lt as
      have hbs := toNat_lt bs
      rw [before_cons, ih hrest, toNat_cons, toNat_cons, hrest]
      rw [hrest] at has
      generalize 256 ^ bs.length = w at has hbs
      -- A greater first byte is worth more than anything that can follow the other one.
      rcases Nat.lt_trichotomy a.toNat b.toNat with hlt | heq | hgt
      · have hle : (a.toNat + 1) * w ≤ b.toNat * w := Nat.mul_le_mul_right w hlt
        rw [Nat.add_mul, Nat.one_mul] at hle
        simp only [hlt, true_or, true_iff]
        omega
      · obtain rfl := UInt8.toNat.inj heq
        simp
      · have hle : (b.toNat + 1) * w ≤ a.toNat * w := Nat.mul_le_mul_right w hgt
        rw [Nat.add_mul, Nat.one_mul] at hle
        have hne : a ≠ b := by
          rintro rfl
          omega
        simp only [hne, false_and, or_false]
        omega

/-! ## Words -/

/-- Eight bytes denote the word that they make up. -/
theorem toNat_eight (a b c d e f g h : UInt8) :
    toNat [a, b, c, d, e, f, g, h] = (word a b c d e f g h).toNat := by
  rw [toNat_word]
  simp only [toNat_cons, List.length_cons, List.length_nil]
  simp only [toNat, List.foldl_nil]
  omega

/-- The bytes of a word, most significant first, denote that word. -/
theorem toNat_ofWordBE (n : UInt64) : toNat (ofWordBE n) = n.toNat := by
  rw [ofWordBE, toNat_eight, word_bytes]

/-- Words are ordered as their bytes, most significant first. -/
theorem before_ofWordBE {m n : UInt64} : before (ofWordBE m) (ofWordBE n) = true ↔ m < n := by
  have hlength : (ofWordBE m).length = (ofWordBE n).length := rfl
  rw [before_iff_toNat_lt hlength, toNat_ofWordBE, toNat_ofWordBE, UInt64.lt_iff_toNat_lt]

end Bytes

end RelayHub
