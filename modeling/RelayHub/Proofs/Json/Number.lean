/-
Reading a whole number undoes writing it.

A number has no end of its own: its digits end where something else comes. What
stands behind a value is therefore part of every statement from here on, and
`Delimited` says what that may be. A number is written without leading zeros,
which is what the reader insists on, and it is kept as a word of 64 bits while
it is read, so all that is asked of it is that it fits.
-/
import RelayHub.Proofs.Json.Text

set_option autoImplicit false

namespace RelayHub.Json

/-! ## What stands behind a value -/

/-- The end of the text, or one of the bytes that end a value. -/
def Delimited (rest : Bytes) : Prop :=
  ∀ b tail, rest = b :: tail → b = comma ∨ b = closeBracket ∨ b = closeBrace

theorem delimited_nil : Delimited [] :=
  fun _ _ h => by cases h

theorem delimited_comma (tail : Bytes) : Delimited (comma :: tail) :=
  fun _ _ h => .inl (List.cons.inj h).1.symm

theorem delimited_bracket (tail : Bytes) : Delimited (closeBracket :: tail) :=
  fun _ _ h => .inr (.inl (List.cons.inj h).1.symm)

theorem delimited_brace (tail : Bytes) : Delimited (closeBrace :: tail) :=
  fun _ _ h => .inr (.inr (List.cons.inj h).1.symm)

theorem not_digit_of_delimited {rest : Bytes} (h : Delimited rest) : digitComes rest = false := by
  cases rest with
  | nil => rfl
  | cons b tail => rcases h b tail rfl with rfl | rfl | rfl <;> rfl

/-! ## Digits -/

/-- The bytes of ASCII characters. -/
def asciiBytes (cs : List Char) : Bytes :=
  cs.map fun c => UInt8.ofNat c.toNat

/-- The byte of a digit, and its value. -/
theorem digit_byte : ∀ k < 58, 48 ≤ k →
    isDigit (UInt8.ofNat k) = true ∧ digitValue (UInt8.ofNat k) = k - 48 := by
  decide

theorem bounds_of_isDigit {c : Char} (h : c.isDigit = true) : 48 ≤ c.toNat ∧ c.toNat < 58 := by
  rw [Char.isDigit, Bool.and_eq_true, decide_eq_true_eq, decide_eq_true_eq] at h
  exact ⟨h.1, Nat.lt_succ_of_le h.2⟩

theorem digitByte_of_isDigit {c : Char} (h : c.isDigit = true) :
    isDigit (UInt8.ofNat c.toNat) = true ∧ digitValue (UInt8.ofNat c.toNat) = c.toNat - 48 :=
  digit_byte _ (bounds_of_isDigit h).2 (bounds_of_isDigit h).1

/-- More digits make no smaller number. -/
theorem le_ofDigitChars (cs : List Char) (n : Nat) : n ≤ Nat.ofDigitChars 10 cs n := by
  induction cs generalizing n with
  | nil => exact Nat.le_refl n
  | cons c cs ih =>
    refine Nat.le_trans ?_ (ih (10 * n + (c.toNat - '0'.toNat)))
    omega

/-- Digits whose number fits 64 bits are read to their end. -/
theorem digitsOnto_digits {cs : List Char} (hdigits : ∀ c ∈ cs, c.isDigit = true) {n : Nat}
    (hfits : Nat.ofDigitChars 10 cs n < twoTo 64) {rest : Bytes} (hrest : digitComes rest = false)
    (count : Nat) :
    ∃ count', digitsOnto n count (asciiBytes cs ++ rest)
      = (Nat.ofDigitChars 10 cs n, count', rest) := by
  induction cs generalizing n count with
  | nil =>
    cases rest with
    | nil => exact ⟨count, rfl⟩
    | cons b tail =>
      have hb : isDigit b = false := hrest
      exact ⟨count, by rw [asciiBytes, List.map_nil, List.nil_append, digitsOnto, hb]; rfl⟩
  | cons c cs ih =>
    obtain ⟨hc, hcs⟩ := List.forall_mem_cons.1 hdigits
    obtain ⟨hdigit, hvalue⟩ := digitByte_of_isDigit hc
    -- The number so far is never above the whole one, so it fits as well.
    have hnext : Nat.ofDigitChars 10 (c :: cs) n
        = Nat.ofDigitChars 10 cs (n * 10 + (c.toNat - 48)) := by
      rw [Nat.mul_comm]
      rfl
    rw [hnext] at hfits ⊢
    have hsmall := Nat.lt_of_le_of_lt (le_ofDigitChars cs (n * 10 + (c.toNat - 48))) hfits
    rw [asciiBytes, List.map_cons, List.cons_append, digitsOnto, if_pos hdigit]
    dsimp only
    rw [hvalue, if_pos hsmall]
    exact ih hcs hfits (count + 1)

/-- A number that is not zero is not written with a leading zero. -/
theorem toDigits_head {n : Nat} (hn : 0 < n) :
    ∃ c cs, Nat.toDigits 10 n = c :: cs ∧ c ≠ '0' := by
  induction n using Nat.strongRecOn with
  | ind n ih =>
    rw [Nat.toDigits_eq_if (by decide)]
    split
    · rename_i hsmall
      have hchar : ∀ k < 10, 0 < k → k.digitChar ≠ '0' := by decide
      exact ⟨_, [], rfl, hchar n hsmall hn⟩
    · obtain ⟨c, cs, hdigits, hc⟩ := ih (n / 10) (by omega) (by omega)
      exact ⟨c, cs ++ [(n % 10).digitChar], by rw [hdigits]; rfl, hc⟩

/-! ## Numbers -/

/-- The whole part of a number is read to its end. -/
theorem number_writeNat {n : Nat} (hfits : n < twoTo 64) {rest : Bytes}
    (hrest : digitComes rest = false) (negative : Bool) :
    number negative (writeNat n ++ rest) = afterWhole negative n rest := by
  rcases Nat.eq_zero_or_pos n with rfl | hn
  · have hzero : writeNat 0 = [0x30] := by decide
    rw [hzero, List.singleton_append, number, if_pos rfl, hrest]
    rfl
  · obtain ⟨c, cs, hdigits, hc⟩ := toDigits_head hn
    have hall : ∀ d ∈ c :: cs, d.isDigit = true := fun d hd =>
      Nat.isDigit_of_mem_toDigits (by decide) (by decide) (hdigits ▸ hd)
    have hvalue : Nat.ofDigitChars 10 (c :: cs) 0 = n := by
      rw [← hdigits]
      exact Nat.ofDigitChars_toDigits (by decide) (by decide)
    obtain ⟨hfirst, hothers⟩ := List.forall_mem_cons.1 hall
    obtain ⟨hdigit, hfirstValue⟩ := digitByte_of_isDigit hfirst
    have hnext : Nat.ofDigitChars 10 cs (c.toNat - 48) = n := by
      rw [← hvalue, Nat.ofDigitChars, Nat.ofDigitChars, List.foldl_cons]
      simp
    have hnonzero : UInt8.ofNat c.toNat ≠ 0x30 := by
      intro h
      have hnumber := congrArg UInt8.toNat h
      have hbounds := bounds_of_isDigit hfirst
      rw [Utf8.toNat_ofNat_byte (by omega)] at hnumber
      exact hc (Char.toNat_inj.1 hnumber)
    obtain ⟨count, hread⟩ := digitsOnto_digits hothers (n := c.toNat - 48) (hnext ▸ hfits) hrest 1
    rw [writeNat, hdigits, List.map_cons, List.cons_append, number, if_neg hnonzero, if_pos hdigit,
      hfirstValue]
    change digitsOnto _ _ (cs.map _ ++ rest) = _ at hread
    rw [hread, hnext]
    dsimp only
    rw [hrest]
    rfl

/-- A number that ends before a delimiter is whole. -/
theorem afterWhole_delimited {rest : Bytes} (hrest : Delimited rest) (negative : Bool) (n : Nat) :
    afterWhole negative n rest =
      if negative then
        if 0 < n ∧ n ≤ twoTo 63 then .ok (.whole (-(n : Int))) rest
        else .ok (.fraction (Binary64.ofWord true n)) rest
      else .ok (.whole n) rest := by
  cases rest with
  | nil => rfl
  | cons b tail => rcases hrest b tail rfl with rfl | rfl | rfl <;> rfl

end RelayHub.Json
