/-
Reading the binary layout undoes writing it, whatever follows.

Every reader takes from the front what its writer wrote and leaves the rest, so
records read back field by field. Lengths are words: a text whose length does
not fit into one cannot be laid out, which is the one condition there is.
-/
import RelayHub.Proofs.Text.Hex
import RelayHub.Proofs.Word
import RelayHub.Store.Layout

set_option autoImplicit false

namespace RelayHub.Layout

/-! ## What can be laid out -/

/-- A text whose length fits into a word. -/
def FitsText (s : String) : Prop :=
  (Utf8.encode s).length < UInt64.size

/-- A byte string whose hexadecimal text has a length that fits into a word. -/
def FitsHex (bytes : Bytes) : Prop :=
  2 * bytes.length < UInt64.size

instance (s : String) : Decidable (FitsText s) :=
  inferInstanceAs (Decidable (_ < _))

instance (bytes : Bytes) : Decidable (FitsHex bytes) :=
  inferInstanceAs (Decidable (_ < _))

theorem fitsText_encode {bytes : Bytes} (h : FitsHex bytes) : FitsText (Hex.encode bytes) := by
  rw [FitsText, Hex.length_encode]
  exact h

/-! ## Words -/

@[simp] theorem takeWord_word (n : UInt64) (rest : Bytes) :
    takeWord (word n ++ rest) = .ok (n, rest) := by
  rw [takeWord, word, Bytes.takeWordLE?_ofWordLE]

@[simp] theorem takeSigned_signed (n : Int64) (rest : Bytes) :
    takeSigned (signed n ++ rest) = .ok (n, rest) := by
  rw [takeSigned, signed, takeWord_word]
  exact congrArg (fun m => Except.ok (m, rest)) (Int64.toInt64_toUInt64 n)

/-! ## Texts and byte strings -/

theorem toNat_length {α : Type} {items : List α} (h : items.length < UInt64.size) :
    (UInt64.ofNat items.length).toNat = items.length := by
  rw [UInt64.toNat_ofNat', Nat.mod_eq_of_lt h]

theorem takeText_text {s : String} (h : FitsText s) (rest : Bytes) :
    takeText (text s ++ rest) = .ok (s, rest) := by
  have hn := toNat_length h
  have hroom : ¬ (Utf8.encode s ++ rest).length < (UInt64.ofNat (Utf8.encode s).length).toNat := by
    rw [hn, List.length_append]; omega
  rw [text, takeText, length, List.append_assoc, takeWord_word]
  simp only [bind, Except.bind]
  rw [if_neg hroom, hn, List.take_left, List.drop_left, Utf8.decode?_encode]
  rfl

theorem takeHex_hex {bytes : Bytes} (h : FitsHex bytes) (rest : Bytes) :
    takeHex (hex bytes ++ rest) = .ok (bytes, rest) := by
  rw [hex, takeHex, takeText_text (fitsText_encode h)]
  simp only [bind, Except.bind]
  rw [Hex.decode_encode]
  rfl

theorem takeOptionalText_optionalText {o : Option String} (h : ∀ s ∈ o, FitsText s)
    (rest : Bytes) : takeOptionalText (optionalText o ++ rest) = .ok (o, rest) := by
  cases o with
  | none => rfl
  | some s =>
    rw [optionalText, List.cons_append, takeOptionalText, if_neg (by decide), if_pos rfl,
      takeText_text (h s rfl)]
    rfl

/-! ## Bytes as they are -/

theorem takeBlock_block {bytes : Bytes} (h : bytes.length < UInt64.size) (rest : Bytes) :
    takeBlock (block bytes ++ rest) = .ok (bytes, rest) := by
  have hn := toNat_length h
  have hroom : ¬ (bytes ++ rest).length < (UInt64.ofNat bytes.length).toNat := by
    rw [hn, List.length_append]; omega
  rw [block, takeBlock, length, List.append_assoc, takeWord_word]
  simp only [bind, Except.bind]
  rw [if_neg hroom, hn, List.take_left, List.drop_left]
  rfl

end RelayHub.Layout
