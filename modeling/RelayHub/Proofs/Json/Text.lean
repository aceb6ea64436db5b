/-
Reading a JSON string undoes writing it.

A character is written as itself or as an escape, and what is written never
looks like the closing quote. So the argument is about one character again:
whatever was read before it, its bytes add exactly the UTF-8 bytes of that
character. The bytes of a whole string are then UTF-8, and reading ends at the
quote.
-/
import RelayHub.Json.Codec
import RelayHub.Proofs.Text.Utf8

set_option autoImplicit false

namespace RelayHub.Json

/-! ## Outcomes -/

namespace Outcome

variable {α β : Type}

@[simp] theorem andThen_ok (v : α) (rest : Bytes) (f : α → Bytes → Outcome β) :
    (ok v rest).andThen f = f v rest := rfl

@[simp] theorem map_ok (f : α → β) (v : α) (rest : Bytes) :
    (ok v rest).map f = ok (f v) rest := rfl

end Outcome

/-- Blanks end at a byte that is none. -/
theorem skipBlanks_cons {b : UInt8} (hb : isBlank b = false) (tail : Bytes) :
    skipBlanks (b :: tail) = b :: tail := by
  rw [skipBlanks, hb]
  rfl

/-! ## Bytes that stand for themselves -/

/-- A byte that is neither a quote, nor a backslash, nor a control character. -/
def Plain (b : UInt8) : Prop :=
  b ≠ quote ∧ b ≠ backslash ∧ ¬ b < 0x20

theorem unescape_plain {b : UInt8} (hb : Plain b) (out rest : Bytes) :
    unescape out (b :: rest) = unescape (b :: out) rest := by
  rw [unescape.eq_def]
  dsimp only
  rw [if_neg hb.1, if_neg hb.2.1, if_neg hb.2.2]

theorem unescape_plains {bytes : Bytes} (h : ∀ b ∈ bytes, Plain b) (out rest : Bytes) :
    unescape out (bytes ++ rest) = unescape (bytes.reverse ++ out) rest := by
  induction bytes generalizing out with
  | nil => rfl
  | cons b bytes ih =>
    obtain ⟨hb, hbytes⟩ := List.forall_mem_cons.1 h
    rw [List.cons_append, unescape_plain hb, ih hbytes, List.reverse_cons, List.append_assoc]
    rfl

/-- A byte is plain if its number is. -/
theorem plain_ofNat {k : Nat} (hk : k < 256) (hquote : k ≠ 0x22) (hbackslash : k ≠ 0x5C)
    (hlow : 0x20 ≤ k) : Plain (UInt8.ofNat k) := by
  have hnumber := Utf8.toNat_ofNat_byte hk
  refine ⟨fun h => hquote ?_, fun h => hbackslash ?_, fun h => ?_⟩
  · rw [← hnumber, h]
    rfl
  · rw [← hnumber, h]
    rfl
  · rw [UInt8.lt_iff_toNat_lt, hnumber] at h
    exact absurd h (Nat.not_lt.2 hlow)

/-- A character that needs no escape is plain throughout. -/
theorem plain_encodeChar {c : Char} (hquote : c.toNat ≠ 0x22) (hbackslash : c.toNat ≠ 0x5C)
    (hlow : 0x20 ≤ c.toNat) : ∀ b ∈ Utf8.encodeChar c, Plain b := by
  have hvalid := Utf8.char_bounds c
  unfold Utf8.encodeChar
  generalize c.toNat = n at hvalid hquote hbackslash hlow ⊢
  -- All bytes of a longer encoding are above those of ASCII.
  have hhigh : ∀ {k}, 0x80 ≤ k → k < 0x100 → Plain (UInt8.ofNat k) := fun hlow hk =>
    plain_ofNat hk (by omega) (by omega) (by omega)
  dsimp only
  split
  · exact List.forall_mem_singleton.2 (plain_ofNat (by omega) hquote hbackslash hlow)
  split
  · exact List.forall_mem_cons.2 ⟨hhigh (by omega) (by omega),
      List.forall_mem_singleton.2 (hhigh (by omega) (by omega))⟩
  split
  · exact List.forall_mem_cons.2 ⟨hhigh (by omega) (by omega),
      List.forall_mem_cons.2 ⟨hhigh (by omega) (by omega),
        List.forall_mem_singleton.2 (hhigh (by omega) (by omega))⟩⟩
  · exact List.forall_mem_cons.2 ⟨hhigh (by omega) (by omega),
      List.forall_mem_cons.2 ⟨hhigh (by omega) (by omega),
        List.forall_mem_cons.2 ⟨hhigh (by omega) (by omega),
          List.forall_mem_singleton.2 (hhigh (by omega) (by omega))⟩⟩⟩

/-! ## Escapes -/

/-- The letter of a control character is read as that character. -/
theorem shortEscape_of_shortControl : ∀ n < 32, ∀ letter,
    shortControl? (Char.ofNat n) = some letter →
    shortEscape? letter = some (UInt8.ofNat n) := by
  decide +kernel

/-- The digits of a control character without a letter spell its number. -/
theorem unit_hexDigits : ∀ n < 32,
    unit? 0x30 0x30 (hexDigit (n / 16)) (hexDigit (n % 16)) = some n := by
  decide

theorem unescape_short {letter c : UInt8} (h : shortEscape? letter = some c) (out rest : Bytes) :
    unescape out (backslash :: letter :: rest) = unescape (c :: out) rest := by
  rw [unescape.eq_def]
  dsimp only
  rw [if_neg (by decide), if_pos rfl, h]

/-- An escape by number of a character that is no surrogate. -/
theorem unescape_unit {a b c d : UInt8} {n : Nat} (h : unit? a b c d = some n) (hn : n < 0xD800)
    (out rest : Bytes) :
    unescape out (backslash :: 0x75 :: a :: b :: c :: d :: rest)
      = unescape ((codePoint n).reverse ++ out) rest := by
  rw [unescape, if_neg (by decide), if_pos rfl]
  have hletter : shortEscape? 0x75 = none := by decide
  rw [hletter]
  dsimp only
  rw [if_pos rfl, h]
  dsimp only
  rw [if_pos (.inl hn)]

/-! ## Characters -/

/-- What is written for a character is read as its bytes. -/
theorem unescape_writeChar (c : Char) (out rest : Bytes) :
    unescape out (writeChar c ++ rest)
      = unescape ((Utf8.encodeChar c).reverse ++ out) rest := by
  rw [writeChar]
  split
  · -- A quote is written with a backslash, and so is a backslash.
    rename_i hquote
    have hbytes : Utf8.encodeChar c = [quote] := by
      rw [Utf8.encodeChar, hquote]
      rfl
    rw [hbytes]
    exact unescape_short (by decide) out rest
  split
  · rename_i hbackslash
    have hbytes : Utf8.encodeChar c = [backslash] := by
      rw [Utf8.encodeChar, hbackslash]
      rfl
    rw [hbytes]
    exact unescape_short (by decide) out rest
  split
  · rename_i hlow
    have hchar : Char.ofNat c.toNat = c := Char.ofNat_toNat c
    split
    · rename_i letter hletter
      rw [← hchar] at hletter
      have hbytes : Utf8.encodeChar c = [UInt8.ofNat c.toNat] := by
        rw [Utf8.encodeChar]
        exact if_pos (by omega)
      rw [hbytes]
      exact unescape_short (shortEscape_of_shortControl _ hlow _ hletter) out rest
    · have hunit := unescape_unit (unit_hexDigits _ hlow) (by omega) out rest
      rw [codePoint, hchar] at hunit
      exact hunit
  · rename_i hquote hbackslash hlow
    exact unescape_plains (plain_encodeChar hquote hbackslash (by omega)) out rest

/-! ## Strings -/

theorem unescape_writeChars (cs : List Char) (out rest : Bytes) :
    unescape out (cs.flatMap writeChar ++ quote :: rest)
      = .ok (out.reverse ++ Utf8.encodeChars cs) rest := by
  induction cs generalizing out with
  | nil =>
    rw [List.flatMap_nil, List.nil_append, unescape.eq_def]
    dsimp only
    rw [if_pos rfl, Utf8.encodeChars, List.flatMap_nil, List.append_nil]
  | cons c cs ih =>
    rw [List.flatMap_cons, List.append_assoc, unescape_writeChar, ih, List.reverse_append,
      List.reverse_reverse, List.append_assoc]
    rfl

/-- A string is read back up to its closing quote. -/
theorem stringBody_write (s : String) (rest : Bytes) :
    stringBody (s.toList.flatMap writeChar ++ quote :: rest) = .ok s rest := by
  have hbytes : unescape [] (s.toList.flatMap writeChar ++ quote :: rest)
      = .ok (Utf8.encode s) rest := unescape_writeChars s.toList [] rest
  rw [stringBody, hbytes, Outcome.andThen_ok, Utf8.decode?_encode]

/-- What is written for a string, with something behind it. -/
theorem writeText_append (s : String) (rest : Bytes) :
    writeText s ++ rest = quote :: (s.toList.flatMap writeChar ++ quote :: rest) := by
  simp [writeText]

end RelayHub.Json
