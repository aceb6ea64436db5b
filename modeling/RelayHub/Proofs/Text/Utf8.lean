/-
Reading UTF-8 undoes writing it.

The scan is a machine with one byte of lookahead, so the argument is about one
character: from between two characters, its bytes take the scan to between two
characters again and leave exactly that character behind. The four lengths of
an encoding are four lead-byte tables, and the bounds on the second byte are
where a character that is neither overlong nor a surrogate is used.
-/
import RelayHub.Text.Utf8

set_option autoImplicit false

namespace RelayHub.Utf8

/-! ## Lead bytes -/

/-- A lead byte of a two-byte character. -/
theorem start_two : ∀ m < 32, 2 ≤ m →
    start (UInt8.ofNat (0xC0 + m)) = .inr ⟨m, 1, 0x80, 0xBF, 1⟩ := by
  decide

/-- A lead byte of a three-byte character. The first leaves out overlong forms
and the fourteenth leaves out surrogates. -/
theorem start_three : ∀ m < 16,
    start (UInt8.ofNat (0xE0 + m))
      = .inr ⟨m, 2, if m = 0 then 0xA0 else 0x80, if m = 13 then 0x9F else 0xBF, 1⟩ := by
  decide

/-- A lead byte of a four-byte character. The first leaves out overlong forms
and the last leaves out what is past the last code point. -/
theorem start_four : ∀ m < 5,
    start (UInt8.ofNat (0xF0 + m))
      = .inr ⟨m, 3, if m = 0 then 0x90 else 0x80, if m = 4 then 0x8F else 0xBF, 1⟩ := by
  decide

/-! ## One byte at a time -/

theorem toNat_ofNat_byte {k : Nat} (hk : k < 256) : (UInt8.ofNat k).toNat = k := by
  rw [UInt8.toNat_ofNat', Nat.mod_eq_of_lt (by omega)]

theorem scan_lead {b : UInt8} {p : Pending} (h : start b = .inr p) (rest : Bytes) :
    scan none (b :: rest) = scan (some p) rest := by
  rw [scan, h]

theorem within_bounds {low high : UInt8} {k : Nat} (hk : k < 256) (hlow : low.toNat ≤ k)
    (hhigh : k ≤ high.toNat) : low ≤ UInt8.ofNat k ∧ UInt8.ofNat k ≤ high := by
  rw [UInt8.le_iff_toNat_le, UInt8.le_iff_toNat_le, toNat_ofNat_byte hk]
  exact ⟨hlow, hhigh⟩

/-- The last byte of a character. -/
theorem scan_last {value taken k : Nat} {low high : UInt8} (hk : k < 256) (hlow : low.toNat ≤ k)
    (hhigh : k ≤ high.toNat) (rest : Bytes) :
    scan (some ⟨value, 1, low, high, taken⟩) (UInt8.ofNat k :: rest)
      = .char (Char.ofNat (value * 64 + (k - 0x80))) :: scan none rest := by
  rw [scan, if_pos (within_bounds hk hlow hhigh), toNat_ofNat_byte hk]
  rfl

/-- A byte inside a character. -/
theorem scan_inner {value more taken k : Nat} {low high : UInt8} (hk : k < 256)
    (hlow : low.toNat ≤ k) (hhigh : k ≤ high.toNat) (rest : Bytes) :
    scan (some ⟨value, more + 2, low, high, taken⟩) (UInt8.ofNat k :: rest)
      = scan (some ⟨value * 64 + (k - 0x80), more + 1, 0x80, 0xBF, taken + 1⟩) rest := by
  rw [scan, if_pos (within_bounds hk hlow hhigh), toNat_ofNat_byte hk]
  exact if_neg (show ¬ more + 2 ≤ 1 by omega)

/-! ## One character at a time -/

/-- Code points are below the last one and are no surrogates. -/
theorem char_bounds (c : Char) : c.toNat < 0xD800 ∨ 0xDFFF < c.toNat ∧ c.toNat < 0x110000 :=
  c.valid

/-- The bytes of a character are read as that character. -/
theorem scan_encodeChar (c : Char) (rest : Bytes) :
    scan none (encodeChar c ++ rest) = .char c :: scan none rest := by
  have hvalid := char_bounds c
  have hchar : Char.ofNat c.toNat = c := Char.ofNat_toNat c
  rw [encodeChar]
  generalize c.toNat = n at hvalid hchar ⊢
  split
  · rename_i h1
    have hb := toNat_ofNat_byte (k := n) (by omega)
    rw [List.singleton_append, scan, start, hb, if_pos h1, hchar]
  split
  · rename_i h1 h2
    have hstart := start_two (n / 64) (by omega) (by omega)
    have hvalue : n / 64 * 64 + (0x80 + n % 64 - 0x80) = n := by omega
    rw [List.cons_append, List.singleton_append, scan_lead hstart,
      scan_last (by omega) (show 0x80 ≤ _ by omega) (show _ ≤ 0xBF by omega), hvalue, hchar]
  split
  · rename_i h1 h2 h3
    have hstart := start_three (n / 4096) (by omega)
    have hvalue : (n / 4096 * 64 + (0x80 + n / 64 % 64 - 0x80)) * 64 + (0x80 + n % 64 - 0x80) = n := by
      omega
    -- the second byte is where an overlong form or a surrogate would fail
    have hlow : (if n / 4096 = 0 then 0xA0 else 0x80 : UInt8).toNat ≤ 0x80 + n / 64 % 64 := by
      split
      · exact show 0xA0 ≤ _ by omega
      · exact show 0x80 ≤ _ by omega
    have hhigh : 0x80 + n / 64 % 64 ≤ (if n / 4096 = 13 then 0x9F else 0xBF : UInt8).toNat := by
      split
      · exact show _ ≤ 0x9F by omega
      · exact show _ ≤ 0xBF by omega
    simp only [List.cons_append, List.nil_append]
    rw [scan_lead hstart, scan_inner (by omega) hlow hhigh,
      scan_last (by omega) (show 0x80 ≤ _ by omega) (show _ ≤ 0xBF by omega), hvalue, hchar]
  · rename_i h1 h2 h3
    have hstart := start_four (n / 262144) (by omega)
    have hvalue : ((n / 262144 * 64 + (0x80 + n / 4096 % 64 - 0x80)) * 64
        + (0x80 + n / 64 % 64 - 0x80)) * 64 + (0x80 + n % 64 - 0x80) = n := by
      omega
    have hlow : (if n / 262144 = 0 then 0x90 else 0x80 : UInt8).toNat ≤ 0x80 + n / 4096 % 64 := by
      split
      · exact show 0x90 ≤ _ by omega
      · exact show 0x80 ≤ _ by omega
    have hhigh : 0x80 + n / 4096 % 64 ≤ (if n / 262144 = 4 then 0x8F else 0xBF : UInt8).toNat := by
      split
      · exact show _ ≤ 0x8F by omega
      · exact show _ ≤ 0xBF by omega
    simp only [List.cons_append, List.nil_append]
    rw [scan_lead hstart, scan_inner (by omega) hlow hhigh,
      scan_inner (by omega) (show 0x80 ≤ _ by omega) (show _ ≤ 0xBF by omega),
      scan_last (by omega) (show 0x80 ≤ _ by omega) (show _ ≤ 0xBF by omega), hvalue, hchar]

/-! ## Texts -/

/-- The bytes of characters are cut into those characters. -/
theorem pieces_encodeChars (cs : List Char) : pieces (encodeChars cs) = cs.map .char := by
  induction cs with
  | nil => rfl
  | cons c cs ih =>
    unfold pieces at ih ⊢
    rw [encodeChars, List.flatMap_cons, scan_encodeChar, List.map_cons]
    exact congrArg _ ih

theorem mapM_char? (cs : List Char) : (cs.map Piece.char).mapM Piece.char? = some cs := by
  induction cs with
  | nil => rfl
  | cons c cs ih =>
    rw [List.map_cons, List.mapM_cons, ih]
    rfl

/-- A text is read back from its bytes. -/
@[simp] theorem decode?_encode (s : String) : decode? (encode s) = some s := by
  rw [decode?, decodeChars?, encode, pieces_encodeChars, mapM_char?, Option.map_some,
    String.ofList_toList]

@[simp] theorem decodeLossy_encode (s : String) : decodeLossy (encode s) = s := by
  have hchars : s.toList.map ((fun p => p.char?.getD '\uFFFD') ∘ Piece.char) = s.toList :=
    List.map_id s.toList
  rw [decodeLossy, encode, pieces_encodeChars, List.map_map, hchars, String.ofList_toList]

/-- Characters have no flaw, however many bytes stand before them. -/
theorem firstFlaw_map_char (cs : List Char) (before : Nat) :
    firstFlaw before (cs.map .char) = none := by
  induction cs generalizing before with
  | nil => rfl
  | cons c cs ih =>
    rw [List.map_cons, firstFlaw]
    exact ih _

@[simp] theorem flaw?_encode (s : String) : flaw? (encode s) = none := by
  rw [flaw?, encode, pieces_encodeChars, firstFlaw_map_char]

/-- Different texts have different bytes. -/
theorem encode_injective {s t : String} (h : encode s = encode t) : s = t := by
  have hread : decode? (encode s) = decode? (encode t) := by rw [h]
  rw [decode?_encode, decode?_encode] at hread
  exact Option.some.inj hread

@[simp] theorem encode_inj {s t : String} : encode s = encode t ↔ s = t :=
  ⟨encode_injective, fun h => h ▸ rfl⟩

/-! ## Bytes of texts -/

/-- A byte string that is the bytes of a text. -/
def IsText (bytes : Bytes) : Prop :=
  ∃ s, bytes = encode s

theorem isText_encode (s : String) : IsText (encode s) :=
  ⟨s, rfl⟩

theorem isText_encodeChars (cs : List Char) : IsText (encodeChars cs) :=
  ⟨String.ofList cs, by rw [encode, String.toList_ofList]⟩

theorem isText_nil : IsText [] :=
  isText_encodeChars []

theorem isText_encodeChar (c : Char) : IsText (encodeChar c) := by
  have htext := isText_encodeChars [c]
  rwa [encodeChars, List.flatMap_singleton] at htext

/-- A byte of ASCII is a text by itself. -/
theorem isText_singleton {b : UInt8} (hb : b < 0x80) : IsText [b] := by
  have hlow : b.toNat < 0x80 := hb
  have hchar : (Char.ofNat b.toNat).toNat = b.toNat := by
    rw [Char.ofNat, dif_pos (show b.toNat.isValidChar from .inl (by omega))]
    rfl
  have htext := isText_encodeChar (Char.ofNat b.toNat)
  rwa [encodeChar, hchar, if_pos hlow, UInt8.ofNat_toNat] at htext

namespace IsText

variable {bytes bytes' : Bytes}

theorem append (h : IsText bytes) (h' : IsText bytes') : IsText (bytes ++ bytes') := by
  obtain ⟨s, rfl⟩ := h
  obtain ⟨s', rfl⟩ := h'
  have htext := isText_encodeChars (s.toList ++ s'.toList)
  rwa [encodeChars, List.flatMap_append] at htext

theorem cons {b : UInt8} (hb : b < 0x80) (h : IsText bytes) : IsText (b :: bytes) :=
  (isText_singleton hb).append h

theorem of_ascii (h : ∀ b ∈ bytes, b < 0x80) : IsText bytes := by
  induction bytes with
  | nil => exact isText_nil
  | cons b bytes ih =>
    obtain ⟨hb, hbytes⟩ := List.forall_mem_cons.1 h
    exact .cons hb (ih hbytes)

/-- Reading such a byte string gives the text whose bytes it is. -/
theorem encode_decodeLossy (h : IsText bytes) : encode (decodeLossy bytes) = bytes := by
  obtain ⟨s, rfl⟩ := h
  rw [decodeLossy_encode]

theorem flaw?_eq_none (h : IsText bytes) : flaw? bytes = none := by
  obtain ⟨s, rfl⟩ := h
  exact flaw?_encode s

end IsText

end RelayHub.Utf8
