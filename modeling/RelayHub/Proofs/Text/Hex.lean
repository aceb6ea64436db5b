/-
Reading hexadecimal text undoes writing it.

Both sides work on bytes: the digits are ASCII, so the text of a byte string
is two bytes for each of its bytes, and the reader takes them back in pairs.
-/
import RelayHub.Proofs.Text.Utf8
import RelayHub.Text.Hex

set_option autoImplicit false

namespace RelayHub.Hex

/-! ## Digits -/

/-- The byte of a digit. -/
def digitByte (n : Nat) : UInt8 :=
  UInt8.ofNat (digit n).toNat

theorem encodeChar_digit : ∀ n < 16, Utf8.encodeChar (digit n) = [digitByte n] := by
  decide

theorem value?_digitByte : ∀ n < 16, value? (digitByte n) = some n := by
  decide

/-! ## Byte strings -/

/-- The bytes of hexadecimal text, two for each byte it spells. -/
theorem encode_bytes (bytes : Bytes) :
    Utf8.encode (encode bytes)
      = bytes.flatMap fun b => [digitByte (b.toNat / 16), digitByte (b.toNat % 16)] := by
  rw [Utf8.encode, encode, String.toList_ofList]
  induction bytes with
  | nil => rfl
  | cons b bytes ih =>
    have hb : b.toNat < 256 := b.toNat_lt
    unfold Utf8.encodeChars at ih ⊢
    unfold encodeChars at ih ⊢
    rw [List.flatMap_cons, List.flatMap_append, ih, List.flatMap_cons]
    simp only [List.flatMap_cons, List.flatMap_nil, encodeChar_digit _ (show b.toNat / 16 < 16 by omega),
      encodeChar_digit _ (show b.toNat % 16 < 16 by omega), List.cons_append, List.nil_append]

theorem length_encode (bytes : Bytes) :
    (Utf8.encode (encode bytes)).length = 2 * bytes.length := by
  rw [encode_bytes]
  induction bytes with
  | nil => rfl
  | cons b bytes ih =>
    rw [List.flatMap_cons, List.length_append, ih, List.length_cons]
    simp only [List.length_cons, List.length_nil]
    omega

theorem decodePairs_digits (bytes : Bytes) (position : Nat) :
    decodePairs position
        (bytes.flatMap fun b => [digitByte (b.toNat / 16), digitByte (b.toNat % 16)])
      = .ok bytes := by
  induction bytes generalizing position with
  | nil => rfl
  | cons b bytes ih =>
    have hb : b.toNat < 256 := b.toNat_lt
    have hbyte : UInt8.ofNat (b.toNat / 16 * 16 + b.toNat % 16) = b := by
      rw [show b.toNat / 16 * 16 + b.toNat % 16 = b.toNat by omega, UInt8.ofNat_toNat]
    rw [List.flatMap_cons, List.cons_append, List.singleton_append, decodePairs,
      value?_digitByte _ (by omega), value?_digitByte _ (by omega)]
    dsimp only
    rw [ih, hbyte]
    rfl

/-- A byte string is read back from its hexadecimal text. -/
@[simp] theorem decode_encode (bytes : Bytes) : decode (encode bytes) = .ok bytes := by
  have hlength : (Utf8.encode (encode bytes)).length % 2 = 0 := by
    rw [length_encode]; omega
  rw [decode, decodeBytes, if_pos hlength, encode_bytes, decodePairs_digits]

/-! ## Lengths -/

theorem length_of_decodePairs {digits bytes : Bytes} {position : Nat}
    (h : decodePairs position digits = .ok bytes) : digits.length = 2 * bytes.length := by
  induction position, digits using decodePairs.induct generalizing bytes with
  | case1 =>
    cases h
    rfl
  | case2 => cases h
  | case3 position a b rest ha =>
    rw [decodePairs, ha] at h
    cases h
  | case4 position a b rest high ha hb =>
    rw [decodePairs, ha, hb] at h
    cases h
  | case5 position a b rest high low ha hb ih =>
    rw [decodePairs, ha, hb] at h
    cases hmore : decodePairs (position + 2) rest with
    | error e =>
      rw [hmore] at h
      cases h
    | ok more =>
      rw [hmore] at h
      cases h
      rw [List.length_cons, List.length_cons, List.length_cons, ih hmore]
      omega

/-- A byte string has half as many bytes as the text that spells it. -/
theorem length_of_decode {s : String} {bytes : Bytes} (h : decode s = .ok bytes) :
    (Utf8.encode s).length = 2 * bytes.length := by
  rw [decode, decodeBytes] at h
  split at h
  · exact length_of_decodePairs h
  · cases h

end RelayHub.Hex
