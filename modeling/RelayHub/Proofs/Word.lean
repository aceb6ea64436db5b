/-
Words are made up of their eight bytes.

Putting bytes together is a chain of shifts and bitwise ors. Each or meets only
zeros, so it is an addition, and the whole is a number in base 256; that turns
both byte orders into arithmetic on natural numbers.
-/
import RelayHub.Bytes

set_option autoImplicit false

namespace RelayHub.Bytes

/-! ## Shifts as products -/

/-- A byte moved up by `k` bits, which weigh `w`. -/
theorem toNat_shifted (b : UInt8) (k w : Nat) (hk : k ≤ 56) (hw : 1 <<< k = w) :
    (b.toUInt64 <<< UInt64.ofNat k).toNat = b.toNat * w := by
  have hb : b.toNat < 256 := b.toNat_lt
  have hpow : w = 2 ^ k := by rw [← hw, Nat.shiftLeft_eq, Nat.one_mul]
  have hle : w ≤ 2 ^ 56 := hpow ▸ Nat.pow_le_pow_right (by decide) hk
  have hlt : b.toNat * w < 2 ^ 64 := by
    calc b.toNat * w ≤ 255 * 2 ^ 56 := Nat.mul_le_mul (by omega) hle
      _ < 2 ^ 64 := by decide
  rw [UInt64.toNat_shiftLeft, UInt64.toNat_ofNat', UInt8.toNat_toUInt64,
    Nat.mod_eq_of_lt (show k < 2 ^ 64 by omega), Nat.mod_eq_of_lt (show k < 64 by omega),
    Nat.shiftLeft_eq, ← hpow, Nat.mod_eq_of_lt hlt]

/-- A byte put below bytes that leave room for it is added to them. -/
theorem toNat_or_shifted {x : UInt64} {m : Nat} (hx : x.toNat = m) (b : UInt8) (k w : Nat)
    (hk : k ≤ 56) (hw : 1 <<< k = w) (hm : m % (256 * w) = 0) :
    (x ||| (b.toUInt64 <<< UInt64.ofNat k)).toNat = m + b.toNat * w := by
  have hb : b.toNat < 256 := b.toNat_lt
  have htop : 256 * w = 2 ^ (k + 8) := by
    rw [← hw, Nat.shiftLeft_eq, Nat.one_mul, Nat.pow_add, Nat.mul_comm]
  have hpos : 0 < w := by
    rw [← hw, Nat.shiftLeft_eq, Nat.one_mul]
    exact Nat.pow_pos (by decide)
  have hlt : b.toNat * w < 2 ^ (k + 8) := htop ▸ Nat.mul_lt_mul_of_pos_right hb hpos
  obtain ⟨q, hq⟩ := Nat.dvd_of_mod_eq_zero hm
  rw [UInt64.toNat_or, toNat_shifted b k w hk hw, hx, hq, htop]
  exact (Nat.two_pow_add_eq_or_of_lt hlt q).symm

/-- The byte of a word that stands above `k` bits, which weigh `w`. -/
theorem toNat_byteAt (n : UInt64) (k w : Nat) (hk : k ≤ 56) (hw : 1 <<< k = w) :
    (n >>> UInt64.ofNat k).toUInt8.toNat = n.toNat / w % 256 := by
  rw [UInt64.toNat_toUInt8, UInt64.toNat_shiftRight, UInt64.toNat_ofNat',
    Nat.mod_eq_of_lt (show k < 2 ^ 64 by omega), Nat.mod_eq_of_lt (show k < 64 by omega),
    Nat.shiftRight_eq_div_pow, ← hw, Nat.shiftLeft_eq, Nat.one_mul]

/-! ## Words -/

/-- The number that eight bytes make up. -/
theorem toNat_word (a b c d e f g h : UInt8) :
    (word a b c d e f g h).toNat
      = a.toNat * 0x100000000000000 + b.toNat * 0x1000000000000 + c.toNat * 0x10000000000
        + d.toNat * 0x100000000 + e.toNat * 0x1000000 + f.toNat * 0x10000 + g.toNat * 0x100
        + h.toNat * 1 := by
  have h1 := toNat_shifted a 56 0x100000000000000 (by decide) rfl
  have h2 := toNat_or_shifted h1 b 48 0x1000000000000 (by decide) rfl (by omega)
  have h3 := toNat_or_shifted h2 c 40 0x10000000000 (by decide) rfl (by omega)
  have h4 := toNat_or_shifted h3 d 32 0x100000000 (by decide) rfl (by omega)
  have h5 := toNat_or_shifted h4 e 24 0x1000000 (by decide) rfl (by omega)
  have h6 := toNat_or_shifted h5 f 16 0x10000 (by decide) rfl (by omega)
  have h7 := toNat_or_shifted h6 g 8 0x100 (by decide) rfl (by omega)
  have h8 := toNat_or_shifted h7 h 0 1 (by decide) rfl (by omega)
  have hlast : h.toUInt64 <<< UInt64.ofNat 0 = h.toUInt64 := UInt64.shiftLeft_zero
  rw [hlast] at h8
  exact h8

/-- The eight bytes of a word make up that word. -/
theorem word_bytes (n : UInt64) :
    word (n >>> 56).toUInt8 (n >>> 48).toUInt8 (n >>> 40).toUInt8 (n >>> 32).toUInt8
      (n >>> 24).toUInt8 (n >>> 16).toUInt8 (n >>> 8).toUInt8 n.toUInt8 = n := by
  have hn : n.toNat < 2 ^ 64 := n.toNat_lt
  have h1 : (n >>> 56).toUInt8.toNat = _ := toNat_byteAt n 56 0x100000000000000 (by decide) rfl
  have h2 : (n >>> 48).toUInt8.toNat = _ := toNat_byteAt n 48 0x1000000000000 (by decide) rfl
  have h3 : (n >>> 40).toUInt8.toNat = _ := toNat_byteAt n 40 0x10000000000 (by decide) rfl
  have h4 : (n >>> 32).toUInt8.toNat = _ := toNat_byteAt n 32 0x100000000 (by decide) rfl
  have h5 : (n >>> 24).toUInt8.toNat = _ := toNat_byteAt n 24 0x1000000 (by decide) rfl
  have h6 : (n >>> 16).toUInt8.toNat = _ := toNat_byteAt n 16 0x10000 (by decide) rfl
  have h7 : (n >>> 8).toUInt8.toNat = _ := toNat_byteAt n 8 0x100 (by decide) rfl
  have h8 : n.toUInt8.toNat = n.toNat % 2 ^ 8 := UInt64.toNat_toUInt8 n
  refine UInt64.toNat.inj ?_
  rw [toNat_word, h1, h2, h3, h4, h5, h6, h7, h8]
  omega

/-- Most significant byte first. -/
@[simp] theorem toWordBE?_ofWordBE (n : UInt64) : toWordBE? (ofWordBE n) = some n := by
  rw [ofWordBE, toWordBE?, word_bytes]

/-- Least significant byte first, before anything else. -/
@[simp] theorem takeWordLE?_ofWordLE (n : UInt64) (rest : Bytes) :
    takeWordLE? (ofWordLE n ++ rest) = some (n, rest) := by
  unfold ofWordLE
  simp only [List.cons_append, List.nil_append, takeWordLE?, word_bytes]

/-- Different words have different bytes. -/
theorem ofWordBE_injective {m n : UInt64} (h : ofWordBE m = ofWordBE n) : m = n := by
  have hread : toWordBE? (ofWordBE m) = toWordBE? (ofWordBE n) := by rw [h]
  rw [toWordBE?_ofWordBE, toWordBE?_ofWordBE] at hread
  exact Option.some.inj hread

@[simp] theorem ofWordBE_inj {m n : UInt64} : ofWordBE m = ofWordBE n ↔ m = n :=
  ⟨ofWordBE_injective, congrArg ofWordBE⟩

end RelayHub.Bytes
