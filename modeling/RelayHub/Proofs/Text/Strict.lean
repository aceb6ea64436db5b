/-
Strict reading accepts the bytes of texts, and nothing else.

That the bytes of a text are read as that text is one half. The other half is that
a byte string without flaws is the bytes of what is read: no character has two
spellings, and no spelling is of something that is no character. So the argument
goes along the scan. A character that has begun knows its first bytes from its
code point, whatever that turns out to be, and each further byte keeps it so. With
both halves the byte strings that are read are those that the standard library
calls valid.
-/
import RelayHub.Proofs.Text.Utf8

set_option autoImplicit false

namespace RelayHub.Utf8

/-! ## Spellings -/

/-- What a digit to the base 64 weighs with `k` digits behind it. -/
def weight (k : Nat) : Nat :=
  Nat.pow 64 k

theorem weight_succ (k : Nat) : weight (k + 1) = weight k * 64 := rfl

/-- The last `k` bytes of a character with the code point `v`. -/
def trail : (k : Nat) → (v : Nat) → Bytes
  | 0, _ => []
  | k + 1, v => UInt8.ofNat (0x80 + v / weight k % 64) :: trail k v

theorem toNat_ofNat_of_valid {v : Nat} (h : v.isValidChar) : (Char.ofNat v).toNat = v := by
  rw [Char.ofNat, dif_pos h]
  rfl

theorem spells_one {v : Nat} (h : v < 0x80) : encodeChar (Char.ofNat v) = [UInt8.ofNat v] := by
  have hvalid : v.isValidChar := .inl (by omega)
  rw [encodeChar, toNat_ofNat_of_valid hvalid, if_pos h]

theorem spells_two {v : Nat} (hlow : 0x80 ≤ v) (hhigh : v < 0x800) :
    v.isValidChar ∧
      encodeChar (Char.ofNat v) = UInt8.ofNat (0xC0 + v / 64) :: trail 1 v := by
  have hvalid : v.isValidChar := .inl (by omega)
  refine ⟨hvalid, ?_⟩
  rw [encodeChar, toNat_ofNat_of_valid hvalid, if_neg (by omega), if_pos hhigh]
  simp [trail, weight]

theorem spells_three {v : Nat} (hlow : 0x800 ≤ v) (hhigh : v < 0x10000)
    (hsurrogate : v < 0xD800 ∨ 0xDFFF < v) :
    v.isValidChar ∧
      encodeChar (Char.ofNat v) = UInt8.ofNat (0xE0 + v / 4096) :: trail 2 v := by
  have hvalid : v.isValidChar := hsurrogate.imp_right fun h => ⟨h, by omega⟩
  refine ⟨hvalid, ?_⟩
  rw [encodeChar, toNat_ofNat_of_valid hvalid, if_neg (by omega), if_neg (by omega), if_pos hhigh]
  simp [trail, weight]

theorem spells_four {v : Nat} (hlow : 0x10000 ≤ v) (hhigh : v < 0x110000) :
    v.isValidChar ∧
      encodeChar (Char.ofNat v) = UInt8.ofNat (0xF0 + v / 262144) :: trail 3 v := by
  have hvalid : v.isValidChar := .inr ⟨by omega, hhigh⟩
  refine ⟨hvalid, ?_⟩
  rw [encodeChar, toNat_ofNat_of_valid hvalid, if_neg (by omega), if_neg (by omega),
    if_neg (by omega)]
  simp [trail, weight]

/-! ## Characters that have begun -/

/-- The bytes `pre` have begun a character. Whatever its code point turns out to be,
there is a character with it, and these are the first bytes of its spelling. -/
structure Begun (pre : Bytes) (p : Pending) : Prop where
  more : 1 ≤ p.more
  low : 0x80 ≤ p.lowest.toNat
  high : p.highest.toNat ≤ 0xBF
  spells {v : Nat} : v / weight p.more = p.value →
    p.lowest.toNat ≤ 0x80 + v / weight (p.more - 1) % 64 →
    0x80 + v / weight (p.more - 1) % 64 ≤ p.highest.toNat →
      v.isValidChar ∧ encodeChar (Char.ofNat v) = pre ++ trail p.more v

section Leads

variable {b low high : UInt8} {m : Nat}

theorem begun_two (hb : b.toNat = 0xC0 + m) (hm : 2 ≤ m) (hm' : m < 32) :
    Begun [b] ⟨m, 1, 0x80, 0xBF, 1⟩ where
  more := Nat.le_refl 1
  low := Nat.le_refl 0x80
  high := Nat.le_refl 0xBF
  spells {v} hv _ _ := by
    change v / 64 = m at hv
    obtain ⟨hvalid, hbytes⟩ := spells_two (v := v) (by omega) (by omega)
    exact ⟨hvalid, by rw [hbytes, hv, ← hb, UInt8.ofNat_toNat]; rfl⟩

/-- The first of these lead bytes leaves out overlong forms, and the fourteenth leaves
out surrogates. -/
theorem begun_three (hb : b.toNat = 0xE0 + m) (hm : m < 16) (hlow : 0x80 ≤ low.toNat)
    (hhigh : high.toNat ≤ 0xBF) (hshort : m = 0 → 0xA0 ≤ low.toNat)
    (hsurrogate : m = 13 → high.toNat ≤ 0x9F) : Begun [b] ⟨m, 2, low, high, 1⟩ where
  more := Nat.le_add_left 1 1
  low := hlow
  high := hhigh
  spells {v} hv hfrom hto := by
    change v / 4096 = m at hv
    change low.toNat ≤ 0x80 + v / 64 % 64 at hfrom
    change 0x80 + v / 64 % 64 ≤ high.toNat at hto
    obtain ⟨hvalid, hbytes⟩ := spells_three (v := v) (by omega) (by omega) (by omega)
    exact ⟨hvalid, by rw [hbytes, hv, ← hb, UInt8.ofNat_toNat]; rfl⟩

/-- The first of these lead bytes leaves out overlong forms, and the fifth leaves out
what is past the last code point. -/
theorem begun_four (hb : b.toNat = 0xF0 + m) (hm : m < 5) (hlow : 0x80 ≤ low.toNat)
    (hhigh : high.toNat ≤ 0xBF) (hshort : m = 0 → 0x90 ≤ low.toNat)
    (hpast : m = 4 → high.toNat ≤ 0x8F) : Begun [b] ⟨m, 3, low, high, 1⟩ where
  more := Nat.le_add_left 1 2
  low := hlow
  high := hhigh
  spells {v} hv hfrom hto := by
    change v / 262144 = m at hv
    change low.toNat ≤ 0x80 + v / 4096 % 64 at hfrom
    change 0x80 + v / 4096 % 64 ≤ high.toNat at hto
    obtain ⟨hvalid, hbytes⟩ := spells_four (v := v) (by omega) (by omega)
    exact ⟨hvalid, by rw [hbytes, hv, ← hb, UInt8.ofNat_toNat]; rfl⟩

/-- A lead byte begins a character. -/
theorem begun_of_start {p : Pending} (h : start b = .inr p) : Begun [b] p := by
  unfold start at h
  dsimp only at h
  split at h
  · cases h
  split at h
  · cases h
  split at h
  · obtain rfl := Sum.inr.inj h
    exact begun_two (by omega) (by omega) (by omega)
  split at h
  · obtain rfl := Sum.inr.inj h
    exact begun_three (by omega) (by decide) (by decide) (by decide) (by decide) (by decide)
  split at h
  · obtain rfl := Sum.inr.inj h
    exact begun_three (by omega) (by decide) (by decide) (by decide) (by decide) (by decide)
  split at h
  · obtain rfl := Sum.inr.inj h
    exact begun_three (by omega) (by omega) (by decide) (by decide) (by omega) (by omega)
  split at h
  · obtain rfl := Sum.inr.inj h
    exact begun_four (by omega) (by decide) (by decide) (by decide) (by decide) (by decide)
  split at h
  · obtain rfl := Sum.inr.inj h
    exact begun_four (by omega) (by omega) (by decide) (by decide) (by omega) (by omega)
  split at h
  · obtain rfl := Sum.inr.inj h
    exact begun_four (by omega) (by decide) (by decide) (by decide) (by decide) (by decide)
  · cases h

end Leads

/-- A byte within the bounds is a digit to the base 64 behind what has been read. -/
theorem Begun.digit {pre : Bytes} {p : Pending} (h : Begun pre p) {b : UInt8}
    (hb : p.lowest ≤ b ∧ b ≤ p.highest) : b.toNat - 0x80 < 64 ∧ 0x80 + (b.toNat - 0x80) = b.toNat := by
  have hlow := UInt8.le_iff_toNat_le.1 hb.1
  have hhigh := UInt8.le_iff_toNat_le.1 hb.2
  have hfrom := h.low
  have hto := h.high
  omega

/-- The last byte of a character that has begun. -/
theorem Begun.last {pre : Bytes} {p : Pending} (h : Begun pre p) (hmore : p.more ≤ 1) {b : UInt8}
    (hb : p.lowest ≤ b ∧ b ≤ p.highest) :
    encodeChar (Char.ofNat (p.value * 64 + (b.toNat - 0x80))) = pre ++ [b] := by
  have hone : p.more = 1 := Nat.le_antisymm hmore h.more
  obtain ⟨hdigit, hbyte⟩ := h.digit hb
  have hmod : (p.value * 64 + (b.toNat - 0x80)) / weight (p.more - 1) % 64 = b.toNat - 0x80 := by
    rw [hone, Nat.sub_self]
    change (p.value * 64 + (b.toNat - 0x80)) / 1 % 64 = _
    omega
  have hspells := (h.spells (v := p.value * 64 + (b.toNat - 0x80)) (by rw [hone]; change _ / 64 = _; omega)
    (by rw [hmod, hbyte]; exact hb.1) (by rw [hmod, hbyte]; exact hb.2)).2
  rw [hspells, hone]
  rw [hone] at hmod
  rw [trail, trail, hmod, hbyte, UInt8.ofNat_toNat]

/-- One more byte of a character that has begun. -/
theorem Begun.next {pre : Bytes} {p : Pending} (h : Begun pre p) (hmore : ¬ p.more ≤ 1) {b : UInt8}
    (hb : p.lowest ≤ b ∧ b ≤ p.highest) :
    Begun (pre ++ [b]) ⟨p.value * 64 + (b.toNat - 0x80), p.more - 1, 0x80, 0xBF, p.taken + 1⟩ where
  more := Nat.le_sub_of_add_le (Nat.lt_of_not_le hmore)
  low := Nat.le_refl 0x80
  high := Nat.le_refl 0xBF
  spells {v} hv _ _ := by
    obtain ⟨k, hk⟩ : ∃ k, p.more = k + 1 := ⟨p.more - 1, by omega⟩
    dsimp only at hv ⊢
    rw [hk, Nat.add_sub_cancel] at hv ⊢
    obtain ⟨hdigit, hbyte⟩ := h.digit hb
    have hmod : v / weight (p.more - 1) % 64 = b.toNat - 0x80 := by
      rw [hk, Nat.add_sub_cancel, hv]
      omega
    have hdiv : v / weight p.more = p.value := by
      rw [hk, weight_succ, ← Nat.div_div_eq_div_mul, hv]
      omega
    obtain ⟨hvalid, hbytes⟩ := h.spells hdiv (by rw [hmod, hbyte]; exact hb.1)
      (by rw [hmod, hbyte]; exact hb.2)
    rw [hk, Nat.add_sub_cancel] at hmod
    refine ⟨hvalid, ?_⟩
    rw [hbytes, hk, trail, hmod, hbyte, UInt8.ofNat_toNat, List.append_assoc, List.singleton_append]

theorem encodeChar_of_start {b : UInt8} {c : Char} (h : start b = .inl (.char c)) :
    encodeChar c = [b] := by
  unfold start at h
  dsimp only at h
  split at h
  · rename_i hascii
    obtain rfl := Piece.char.inj (Sum.inl.inj h)
    rw [spells_one hascii, UInt8.ofNat_toNat]
  · -- No other lead byte is a character by itself.
    repeat' split at h
    all_goals cases h

/-! ## The scan -/

/-- A byte string that is cut into characters is the bytes of these, and so is one
behind a character that has begun. -/
theorem encodeChars_of_scan (bytes : Bytes) : ∀ cs : List Char,
    (scan none bytes = cs.map .char → encodeChars cs = bytes) ∧
      ∀ pre p, Begun pre p → scan (some p) bytes = cs.map .char → encodeChars cs = pre ++ bytes := by
  induction bytes with
  | nil =>
    intro cs
    refine ⟨fun h => ?_, fun pre p _ h => ?_⟩
    · obtain rfl : cs = [] := by simpa [scan] using h.symm
      rfl
    · cases cs <;> cases h
  | cons b bytes ih =>
    intro cs
    constructor
    · intro h
      rw [scan] at h
      cases hb : start b with
      | inl piece =>
        rw [hb] at h
        cases cs with
        | nil => cases h
        | cons c cs =>
          obtain ⟨rfl, hrest⟩ := List.cons.inj h
          rw [encodeChars, List.flatMap_cons, encodeChar_of_start hb]
          exact congrArg ([b] ++ ·) ((ih cs).1 hrest)
      | inr p =>
        rw [hb] at h
        exact (ih cs).2 [b] p (begun_of_start hb) h
    · intro pre p hp h
      rw [scan] at h
      split at h
      · rename_i hbounds
        dsimp only at h
        split at h
        · cases cs with
          | nil => cases h
          | cons c cs =>
            obtain ⟨hc, hrest⟩ := List.cons.inj h
            obtain rfl := Piece.char.inj hc
            rw [encodeChars, List.flatMap_cons, hp.last ‹_› hbounds, List.append_assoc]
            exact congrArg (fun tail => pre ++ ([b] ++ tail)) ((ih cs).1 hrest)
        · have hrest := (ih cs).2 _ _ (hp.next ‹_› hbounds) h
          rw [hrest, List.append_assoc, List.singleton_append]
      · -- A byte out of bounds leaves a flaw, which is no character.
        cases cs <;> cases h

theorem eq_map_of_mapM_char? {pieces : List Piece} {cs : List Char}
    (h : pieces.mapM Piece.char? = some cs) : pieces = cs.map .char := by
  induction pieces generalizing cs with
  | nil =>
    cases h
    rfl
  | cons piece pieces ih =>
    rw [List.mapM_cons] at h
    cases piece with
    | flaw length truncated => cases h
    | char c =>
      cases hrest : pieces.mapM Piece.char? with
      | none =>
        rw [hrest] at h
        cases h
      | some cs' =>
        rw [hrest] at h
        cases h
        rw [ih hrest, List.map_cons]

/-! ## Byte strings that are read -/

/-- A text is read from its bytes and from no others. -/
theorem decode?_eq_some_iff {bytes : Bytes} {s : String} :
    decode? bytes = some s ↔ encode s = bytes := by
  constructor
  · intro h
    obtain ⟨cs, hcs, rfl⟩ := Option.map_eq_some_iff.1 h
    have hpieces : pieces bytes = cs.map .char := eq_map_of_mapM_char? hcs
    rw [encode, String.toList_ofList]
    exact (encodeChars_of_scan bytes cs).1 hpieces
  · rintro rfl
    exact decode?_encode s

theorem decode?_eq_none_iff {bytes : Bytes} : decode? bytes = none ↔ ¬ IsText bytes := by
  rw [Option.eq_none_iff_forall_ne_some]
  constructor
  · rintro h ⟨s, rfl⟩
    exact h s (decode?_encode s)
  · rintro h s hs
    exact h ⟨s, (decode?_eq_some_iff.1 hs).symm⟩

/-! ## The library's notion -/

/-- The bytes of a character are those that the standard library gives it. -/
theorem encodeChar_eq (c : Char) : encodeChar c = String.utf8EncodeChar c := by
  have hbound : c.toNat < 0x110000 := by
    rcases c.valid with h | h
    · exact Nat.lt_trans h (by decide)
    · exact h.2
  have hval : c.val.toNat = c.toNat := rfl
  unfold encodeChar String.utf8EncodeChar
  rw [hval]
  dsimp only
  split
  · rw [if_pos (by omega)]
  split
  · have hlead : c.toNat / 64 % 32 = c.toNat / 64 := Nat.mod_eq_of_lt (by omega)
    rw [if_neg (by omega), if_pos (by omega), hlead]
    simp only [Nat.add_comm]
  split
  · have hlead : c.toNat / 4096 % 16 = c.toNat / 4096 := Nat.mod_eq_of_lt (by omega)
    rw [if_neg (by omega), if_neg (by omega), if_pos (by omega), hlead]
    simp only [Nat.add_comm]
  · have hlead : c.toNat / 262144 % 8 = c.toNat / 262144 := Nat.mod_eq_of_lt (by omega)
    rw [if_neg (by omega), if_neg (by omega), if_neg (by omega), hlead]
    simp only [Nat.add_comm]

/-- The bytes of texts are what the standard library calls valid. -/
theorem isText_iff_isValidUTF8 {bytes : Bytes} :
    IsText bytes ↔ bytes.toByteArray.IsValidUTF8 := by
  have hencode (cs : List Char) : encodeChars cs = cs.flatMap String.utf8EncodeChar :=
    congrArg (List.flatMap · cs) (funext encodeChar_eq)
  constructor
  · rintro ⟨s, rfl⟩
    exact .intro s.toList (congrArg List.toByteArray (hencode s.toList))
  · rintro ⟨cs, hcs⟩
    refine ⟨String.ofList cs, ?_⟩
    rw [encode, String.toList_ofList, hencode]
    exact List.toByteArray_inj.1 hcs

end RelayHub.Utf8
