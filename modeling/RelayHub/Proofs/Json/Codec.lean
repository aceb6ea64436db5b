/-
Codecs that read back what they write.

A codec is faithful if reading what it wrote for a value, with anything behind
that a value may have behind it, gives that value and stops there. Faithful
codecs make faithful lists and optional values, and `decode_write` is what
comes of it for whole texts. How a value opens is part of being faithful: a
list looks at the first byte of an item before it reads it, to see whether the
list ends there, and an optional value to see whether it is null.
-/
import RelayHub.Proofs.Json.Number
import RelayHub.Proofs.Text.Hex

set_option autoImplicit false

namespace RelayHub.Json

variable {α β : Type}

namespace Codec

/-! ## Faithful codecs -/

/-- What a codec writes opens with a byte that neither is blank nor ends a
list, and is read back. -/
structure Faithful (c : Codec α) : Prop where
  opens (v : α) : ∃ b tail, c.write v = b :: tail ∧ isBlank b = false ∧ b ≠ closeBracket
  read_write (v : α) {rest : Bytes} : Delimited rest → c.read (c.write v ++ rest) = .ok v rest

/-- A codec that writes nothing that looks like null. -/
def NeverNull (c : Codec α) : Prop :=
  ∀ v tail, c.write v ≠ 0x6E :: tail

/-- A whole text is read back. -/
theorem Faithful.decode_write {c : Codec α} (h : c.Faithful) (v : α) :
    c.decode (c.write v) = .ok v := by
  have hread := h.read_write v delimited_nil
  rw [List.append_nil] at hread
  rw [decode, hread]
  rfl

/-- The same shape with other elements is as faithful. -/
theorem Faithful.imap {c : Codec α} (h : c.Faithful) {forth : α → β} {back : β → α}
    (hback : ∀ v, forth (back v) = v) : (c.imap forth back).Faithful where
  opens v := h.opens (back v)
  read_write v rest hrest := by
    change (c.read (c.write (back v) ++ rest)).map forth = _
    rw [h.read_write (back v) hrest, Outcome.map_ok, hback]

/-! ## Basic shapes -/

/-- Texts are read back whatever stands behind them. -/
theorem text_read_write (s : String) (rest : Bytes) :
    text.read (text.write s ++ rest) = .ok s rest := by
  change text.read (writeText s ++ rest) = _
  rw [writeText_append]
  exact stringBody_write s rest

theorem text_faithful : text.Faithful where
  opens s := ⟨quote, _, rfl, by decide, by decide⟩
  read_write s rest _ := text_read_write s rest

theorem text_neverNull : text.NeverNull := by
  intro s tail h
  exact absurd (List.cons.inj h).1 (by decide)

theorem hex_faithful : hex.Faithful where
  opens bytes := ⟨quote, _, rfl, by decide, by decide⟩
  read_write bytes rest _ := by
    have hread : text.read (hex.write bytes ++ rest) = .ok (Hex.encode bytes) rest :=
      text_read_write (Hex.encode bytes) rest
    change (text.read (hex.write bytes ++ rest)).andThen _ = _
    rw [hread, Outcome.andThen_ok, Hex.decode_encode]

theorem hex_neverNull : hex.NeverNull :=
  fun bytes => text_neverNull (Hex.encode bytes)

/-! ### Whole numbers -/

/-- Digits open a number. -/
theorem writeNat_opens (n : Nat) : ∃ b tail, writeNat n = b :: tail ∧ isDigit b = true := by
  rcases hdigits : Nat.toDigits 10 n with _ | ⟨c, cs⟩
  · exact absurd hdigits Nat.toDigits_ne_nil
  · have hc : c.isDigit = true :=
      Nat.isDigit_of_mem_toDigits (by decide) (by decide) (hdigits ▸ List.mem_cons_self)
    exact ⟨_, _, by rw [writeNat, hdigits, List.map_cons], (digitByte_of_isDigit hc).1⟩

theorem of_isDigit {b : UInt8} (h : isDigit b = true) :
    isBlank b = false ∧ b ≠ closeBracket ∧ b ≠ minus := by
  rw [isDigit, Bool.and_eq_true, decide_eq_true_eq, decide_eq_true_eq, UInt8.le_iff_toNat_le,
    UInt8.le_iff_toNat_le] at h
  -- Every byte that is asked about is below or above all digits.
  have hne : ∀ k : UInt8, k.toNat < 0x30 ∨ 0x39 < k.toNat → b ≠ k := by
    rintro k hk rfl
    have h1 : 0x30 ≤ b.toNat := h.1
    have h2 : b.toNat ≤ 0x39 := h.2
    omega
  refine ⟨?_, hne _ (by decide), hne _ (by decide)⟩
  rw [isBlank, Bool.or_eq_false_iff, Bool.or_eq_false_iff, Bool.or_eq_false_iff]
  exact ⟨⟨⟨beq_false_of_ne (hne _ (by decide)), beq_false_of_ne (hne _ (by decide))⟩,
    beq_false_of_ne (hne _ (by decide))⟩, beq_false_of_ne (hne _ (by decide))⟩

theorem writeInt_opens (k : Int) :
    ∃ b tail, writeInt k = b :: tail ∧ isBlank b = false ∧ b ≠ closeBracket := by
  rw [writeInt]
  split
  · exact ⟨minus, _, rfl, by decide, by decide⟩
  · obtain ⟨b, tail, hbytes, hb⟩ := writeNat_opens k.natAbs
    exact ⟨b, tail, hbytes, (of_isDigit hb).1, (of_isDigit hb).2.1⟩

/-- A whole number that is in the range, and in that of the words of 64 bits
with or without a sign, is read back. -/
theorem whole_read_write {name : String} {low high k : Int} (hlow : low ≤ k) (hhigh : k ≤ high)
    (hfits : -(twoTo 63 : Int) ≤ k ∧ k < twoTo 64) {rest : Bytes} (hrest : Delimited rest) :
    (whole name low high).read (writeInt k ++ rest) = .ok k rest := by
  have hsize : twoTo 64 = 2 * twoTo 63 := rfl
  have hword : k.natAbs < twoTo 64 := by omega
  have hread := number_writeNat hword (not_digit_of_delimited hrest)
  rw [writeInt]
  split
  · rename_i hneg
    rw [List.cons_append]
    simp only [whole, skipBlanks_cons (show isBlank minus = false by decide), ↓reduceIte]
    rw [hread true, afterWhole_delimited hrest, if_pos rfl, if_pos (by omega),
      Outcome.andThen_ok]
    dsimp only
    rw [show -(k.natAbs : Int) = k by omega, if_pos ⟨hlow, hhigh⟩]
  · rename_i hpos
    obtain ⟨b, tail, hbytes, hb⟩ := writeNat_opens k.natAbs
    obtain ⟨hblank, -, hminus⟩ := of_isDigit hb
    specialize hread false
    rw [hbytes, List.cons_append] at hread ⊢
    simp only [whole, skipBlanks_cons hblank]
    rw [if_neg hminus, if_pos hb, hread, afterWhole_delimited hrest, if_neg (by decide),
      Outcome.andThen_ok]
    dsimp only
    rw [show (k.natAbs : Int) = k by omega, if_pos ⟨hlow, hhigh⟩]

/-- Whole numbers that stand for the elements of another type are read back, if
the range has room for all of them. -/
theorem whole_imap_faithful {name : String} {low high : Int} {forth : Int → α} {back : α → Int}
    (hback : ∀ v, forth (back v) = v) (hlow : ∀ v, low ≤ back v) (hhigh : ∀ v, back v ≤ high)
    (hrange : -(twoTo 63 : Int) ≤ low ∧ high < twoTo 64) :
    ((whole name low high).imap forth back).Faithful where
  opens v := writeInt_opens (back v)
  read_write v rest hrest := by
    have hfits : -(twoTo 63 : Int) ≤ back v ∧ back v < twoTo 64 :=
      ⟨Int.le_trans hrange.1 (hlow v), Int.lt_of_le_of_lt (hhigh v) hrange.2⟩
    change ((whole name low high).read (writeInt (back v) ++ rest)).map forth = _
    rw [whole_read_write (hlow v) (hhigh v) hfits hrest, Outcome.map_ok, hback]

/-- A word of 64 bits is read back. -/
theorem word_faithful (name : String) : (word name).Faithful := by
  refine whole_imap_faithful (fun w => ?_) (fun w => Int.natCast_nonneg _) (fun w => ?_) (by decide)
  · rw [Int.toNat_natCast, UInt64.ofNat_toNat]
  · have hw : w.toNat < twoTo 64 := w.toNat_lt
    omega

/-- A signed word of 64 bits is read back. -/
theorem i64_faithful : i64.Faithful :=
  whole_imap_faithful Int64.ofInt_toInt Int64.le_toInt
    (fun w => Int.le_sub_one_of_lt (Int64.toInt_lt w)) (by decide)

/-- A signed word of 32 bits is read back. -/
theorem i32_faithful : i32.Faithful :=
  whole_imap_faithful Int32.ofInt_toInt Int32.le_toInt
    (fun w => Int.le_sub_one_of_lt (Int32.toInt_lt w)) (by decide)

/-! ## Choices -/

/-- A choice is read back if each name stands for the element that it is written
for. -/
theorem choice_faithful {names : List (String × α)} {nameOf : α → String}
    (h : ∀ v, names.lookup (nameOf v) = some v) : (choice names nameOf).Faithful where
  opens v := ⟨quote, _, rfl, by decide, by decide⟩
  read_write v rest _ := by
    change (choice names nameOf).read (writeText (nameOf v) ++ rest) = _
    rw [writeText_append]
    simp only [choice, skipBlanks_cons (show isBlank quote = false by decide), ↓reduceIte]
    rw [stringBody_write, Outcome.andThen_ok, ofName, h v]

/-! ## Optional values -/

theorem optional_faithful {c : Codec α} (h : c.Faithful) (hnull : c.NeverNull) :
    c.optional.Faithful where
  opens o := by
    cases o with
    | none => exact ⟨0x6E, _, rfl, by decide, by decide⟩
    | some v => exact h.opens v
  read_write o rest hrest := by
    cases o with
    | none => rfl
    | some v =>
      obtain ⟨b, tail, hbytes, hb, -⟩ := h.opens v
      have hread := h.read_write v hrest
      unfold optional
      dsimp only
      rw [hbytes, List.cons_append, skipBlanks_cons hb]
      split
      · rename_i tail' heq
        exact absurd (by rw [hbytes, (List.cons.inj heq).1]) (hnull v tail)
      · rw [← List.cons_append, ← hbytes, hread, Outcome.map_ok]

/-! ## Lists -/

/-- What is written behind the first item. -/
def furtherItems (items : List Bytes) : Bytes :=
  items.flatMap (comma :: ·)

theorem separated_cons (item : Bytes) (items : List Bytes) :
    separated (item :: items) = item ++ furtherItems items := by
  induction items generalizing item with
  | nil => exact (List.append_nil item).symm
  | cons next items ih =>
    rw [separated, ih, furtherItems, furtherItems, List.flatMap_cons]
    · rfl
    · simp

theorem length_le_furtherItems (items : List Bytes) :
    items.length ≤ (furtherItems items).length := by
  induction items with
  | nil => exact Nat.le_refl 0
  | cons item items ih =>
    rw [furtherItems, List.flatMap_cons, List.length_append]
    simp only [List.length_cons]
    unfold furtherItems at ih
    omega

/-- Behind an item comes another one, or the list ends. -/
theorem delimited_furtherItems (items : List Bytes) {rest : Bytes} (hrest : Delimited rest) :
    Delimited (furtherItems items ++ rest) := by
  cases items with
  | nil => exact hrest
  | cons item items => exact delimited_comma _

theorem nextItem_first {b : UInt8} (hblank : isBlank b = false) (hbracket : b ≠ closeBracket)
    (tail : Bytes) : nextItem true (b :: tail) = .ok true (b :: tail) := by
  rw [nextItem, skipBlanks_cons hblank]
  dsimp only
  rw [if_neg hbracket]
  rfl

theorem nextItem_comma {b : UInt8} (hblank : isBlank b = false) (hbracket : b ≠ closeBracket)
    (tail : Bytes) : nextItem false (comma :: b :: tail) = .ok true (b :: tail) := by
  rw [nextItem, skipBlanks_cons (by decide)]
  dsimp only
  rw [if_neg (by decide), if_neg (by decide), if_pos rfl, skipBlanks_cons hblank]
  dsimp only
  rw [if_neg hbracket]

/-- The items behind the first are read back up to the closing bracket. -/
theorem readItems_further {c : Codec α} (h : c.Faithful) (vs : List α) {fuel : Nat}
    (hfuel : vs.length < fuel) (rest : Bytes) :
    readItems c fuel false (furtherItems (vs.map c.write) ++ closeBracket :: rest)
      = .ok vs (closeBracket :: rest) := by
  induction vs generalizing fuel with
  | nil =>
    obtain ⟨fuel, rfl⟩ := Nat.exists_eq_add_one_of_ne_zero (Nat.ne_of_gt hfuel)
    rfl
  | cons v vs ih =>
    obtain ⟨fuel, rfl⟩ := Nat.exists_eq_add_one_of_ne_zero (Nat.ne_of_gt (Nat.zero_lt_of_lt hfuel))
    rw [List.length_cons] at hfuel
    obtain ⟨b, tail, hbytes, hblank, hbracket⟩ := h.opens v
    have hread := h.read_write v
      (delimited_furtherItems (vs.map c.write) (delimited_bracket rest))
    have hsplit : furtherItems ((v :: vs).map c.write) ++ closeBracket :: rest
        = comma :: (c.write v ++ (furtherItems (vs.map c.write) ++ closeBracket :: rest)) := by
      simp [furtherItems]
    rw [hsplit]
    rw [hbytes, List.cons_append] at hread ⊢
    rw [readItems, nextItem_comma hblank hbracket, Outcome.andThen_ok, if_pos rfl, hread,
      Outcome.andThen_ok, ih (by omega), Outcome.map_ok]

/-- The items of a list are read back up to the closing bracket. -/
theorem readItems_write {c : Codec α} (h : c.Faithful) (vs : List α) {fuel : Nat}
    (hfuel : vs.length < fuel) (rest : Bytes) :
    readItems c fuel true (separated (vs.map c.write) ++ closeBracket :: rest)
      = .ok vs (closeBracket :: rest) := by
  obtain ⟨fuel, rfl⟩ := Nat.exists_eq_add_one_of_ne_zero (Nat.ne_of_gt (Nat.zero_lt_of_lt hfuel))
  cases vs with
  | nil => rfl
  | cons v vs =>
    rw [List.length_cons] at hfuel
    obtain ⟨b, tail, hbytes, hblank, hbracket⟩ := h.opens v
    have hread := h.read_write v
      (delimited_furtherItems (vs.map c.write) (delimited_bracket rest))
    rw [List.map_cons, separated_cons, List.append_assoc]
    rw [hbytes, List.cons_append] at hread ⊢
    rw [readItems, nextItem_first hblank hbracket, Outcome.andThen_ok, if_pos rfl, hread,
      Outcome.andThen_ok, readItems_further h vs (by omega), Outcome.map_ok]

theorem length_le_separated {items : List Bytes} (h : ∀ item ∈ items, item ≠ []) :
    items.length ≤ (separated items).length := by
  cases items with
  | nil => exact Nat.le_refl 0
  | cons item items =>
    have hfirst := List.length_pos_iff.2 (h item List.mem_cons_self)
    have hfurther := length_le_furtherItems items
    rw [separated_cons, List.length_append, List.length_cons]
    omega

theorem list_faithful {c : Codec α} (h : c.Faithful) : c.list.Faithful where
  opens vs := ⟨openBracket, _, rfl, by decide, by decide⟩
  read_write vs rest _ := by
    have hitems : ∀ item ∈ vs.map c.write, item ≠ [] := by
      intro item hitem
      obtain ⟨v, -, rfl⟩ := List.mem_map.1 hitem
      obtain ⟨b, tail, hbytes, -⟩ := h.opens v
      simp [hbytes]
    have hlength := length_le_separated hitems
    rw [List.length_map] at hlength
    have hbytes : c.list.write vs ++ rest
        = openBracket :: (separated (vs.map c.write) ++ closeBracket :: rest) := by
      simp [list]
    rw [hbytes]
    -- Every item takes a byte, and so the bytes left are fuel enough.
    have hfuel : vs.length < (separated (vs.map c.write) ++ closeBracket :: rest).length + 1 := by
      rw [List.length_append]
      omega
    simp only [list, skipBlanks_cons (show isBlank openBracket = false by decide), ↓reduceIte]
    rw [readItems_write h vs hfuel rest]
    rfl

end Codec

end RelayHub.Json
