/-
What percent signs in an address stand for.

Writing puts more percent signs into a text and takes none away, so a text is read
as the same bytes before and after it is written. The argument is about what
stands behind a percent sign: the two digits that make it one, or anything else.
Neither writing nor writing out dots changes which of these it is, as a percent
sign and a dot are no digits.
-/
import RelayHub.Net.UrlPath
import RelayHub.Proofs.Text.Utf8

set_option autoImplicit false

namespace RelayHub

namespace Percent

/-! ## Digits -/

theorem digitValue?_upperDigit : ∀ n < 16, digitValue? (upperDigit n) = some n := by
  decide

theorem isAlphanum_upperDigit : ∀ n < 16, (upperDigit n).isAlphanum = true := by
  decide

theorem bounds_of_digit {c : Char} {n : Nat} (h : digitValue? c = some n) :
    48 ≤ c.toNat ∧ c.toNat ≤ 57 ∨ 97 ≤ c.toNat ∧ c.toNat ≤ 102 ∨
      65 ≤ c.toNat ∧ c.toNat ≤ 70 := by
  simp only [digitValue?] at h
  split at h
  · omega
  · split at h
    · omega
    · split at h
      · omega
      · cases h

theorem length_encodeChar_of_digit {c : Char} {n : Nat} (h : digitValue? c = some n) :
    (Utf8.encodeChar c).length = 1 := by
  have hbounds := bounds_of_digit h
  rw [Utf8.encodeChar, if_pos (by omega), List.length_singleton]

/-! ## Reading -/

/-- The byte that the two digits at the front of a text stand for. -/
def escaped? : List Char → Option UInt8
  | a :: b :: _ => do
    let high ← digitValue? a
    let low ← digitValue? b
    return UInt8.ofNat (high * 16 + low)
  | _ => none

theorem escaped?_of_head {c : Char} (h : digitValue? c = none) (cs : List Char) :
    escaped? (c :: cs) = none := by
  cases cs with
  | nil => rfl
  | cons d cs => rw [escaped?, h]; rfl

theorem escaped?_of_second {a b : Char} (h : digitValue? b = none) (cs : List Char) :
    escaped? (a :: b :: cs) = none := by
  rw [escaped?, h]
  cases digitValue? a <;> rfl

/-- A text behind a percent sign that begins with two digits. -/
theorem digits_of_escaped? {cs : List Char} {byte : UInt8} (h : escaped? cs = some byte) :
    ∃ a b rest high low, cs = a :: b :: rest ∧ digitValue? a = some high ∧
      digitValue? b = some low ∧ byte = UInt8.ofNat (high * 16 + low) := by
  unfold escaped? at h
  split at h
  · rename_i a b rest
    obtain ⟨high, hhigh, h⟩ := Option.bind_eq_some_iff.1 h
    obtain ⟨low, hlow, h⟩ := Option.bind_eq_some_iff.1 h
    exact ⟨a, b, rest, high, low, rfl, hhigh, hlow, (Option.some.inj h).symm⟩
  · cases h

theorem decode_cons_of_ne {c : Char} (h : c ≠ '%') (cs : List Char) :
    decode (c :: cs) = Utf8.encodeChar c ++ decode cs := by
  rw [decode]
  intro a b rest hpercent
  exact absurd hpercent h

theorem decode_of_not_mem {cs : List Char} (h : '%' ∉ cs) : decode cs = Utf8.encodeChars cs := by
  induction cs with
  | nil => rfl
  | cons c cs ih =>
    rw [List.mem_cons, not_or] at h
    rw [decode_cons_of_ne (Ne.symm h.1), ih h.2]
    rfl

/-- A percent sign takes the two digits behind it, if there are two, and with them
the two bytes that they would be read as. -/
theorem decode_percent (cs : List Char) :
    decode ('%' :: cs) =
      match escaped? cs with
      | some byte => byte :: (decode cs).drop 2
      | none => 0x25 :: decode cs := by
  cases hescaped : escaped? cs with
  | some byte =>
    -- Digits are one byte each where they are read by themselves.
    obtain ⟨a, b, rest, high, low, rfl, ha, hb, rfl⟩ := digits_of_escaped? hescaped
    have ha' : a ≠ '%' := by
      rintro rfl
      cases ha
    have hb' : b ≠ '%' := by
      rintro rfl
      cases hb
    have hrest : (decode (a :: b :: rest)).drop 2 = decode rest := by
      rw [decode_cons_of_ne ha', decode_cons_of_ne hb', ← List.append_assoc]
      apply List.drop_left'
      rw [List.length_append, length_encodeChar_of_digit ha, length_encodeChar_of_digit hb]
    dsimp only
    rw [hrest, decode, ha, hb]
  | none =>
    dsimp only
    match cs, hescaped with
    | [], _ => rfl
    | [a], _ => rfl
    | a :: b :: rest, hescaped =>
      rw [decode]
      cases ha : digitValue? a with
      | none => rfl
      | some high =>
        cases hb : digitValue? b with
        | none => rfl
        | some low =>
          rw [escaped?, ha, hb] at hescaped
          cases hescaped

/-- Texts that begin with the same character are read alike if the rests are, and
stand for the same digits. -/
theorem decode_cons_congr {cs ds : List Char} (c : Char) (hescaped : escaped? cs = escaped? ds)
    (h : decode cs = decode ds) : decode (c :: cs) = decode (c :: ds) := by
  by_cases hc : c = '%'
  · rw [hc, decode_percent, decode_percent, hescaped, h]
  · rw [decode_cons_of_ne hc, decode_cons_of_ne hc, h]

/-! ## Writing -/

theorem decode_encodeByte (b : UInt8) (cs : List Char) :
    decode (encodeByte b ++ cs) = b :: decode cs := by
  have hb : b.toNat < 256 := b.toNat_lt
  have hhigh := digitValue?_upperDigit (b.toNat / 16) (by omega)
  have hlow := digitValue?_upperDigit (b.toNat % 16) (by omega)
  rw [encodeByte, List.cons_append, List.cons_append, List.cons_append, List.nil_append, decode,
    hhigh, hlow]
  dsimp only
  rw [Nat.div_add_mod', UInt8.ofNat_toNat]

theorem decode_encodeBytes (bytes : Bytes) (cs : List Char) :
    decode (bytes.flatMap encodeByte ++ cs) = bytes ++ decode cs := by
  induction bytes with
  | nil => rfl
  | cons b bytes ih =>
    rw [List.flatMap_cons, List.append_assoc, decode_encodeByte, ih]
    rfl

variable {excluded : Char → Bool}

theorem encode_cons (excluded : Char → Bool) (c : Char) (cs : List Char) :
    encode excluded (c :: cs)
      = (if excluded c then (Utf8.encodeChar c).flatMap encodeByte else [c]) ++
          encode excluded cs := rfl

theorem encode_of_none {cs : List Char} (h : ∀ c ∈ cs, excluded c = false) :
    encode excluded cs = cs := by
  induction cs with
  | nil => rfl
  | cons c cs ih =>
    rw [encode_cons, if_neg (by simp [h c List.mem_cons_self]),
      ih fun d hd => h d (List.mem_cons_of_mem c hd)]
    rfl

theorem mem_encode {cs : List Char} {x : Char} (h : x ∈ encode excluded cs) :
    x ∈ cs ∨ x = '%' ∨ x.isAlphanum = true := by
  obtain ⟨c, hc, hx⟩ := List.mem_flatMap.1 h
  split at hx
  · obtain ⟨b, -, hx⟩ := List.mem_flatMap.1 hx
    have hb : b.toNat < 256 := b.toNat_lt
    simp only [encodeByte, List.mem_cons, List.not_mem_nil, or_false] at hx
    obtain rfl | rfl | rfl := hx
    · exact .inr (.inl rfl)
    · exact .inr (.inr (isAlphanum_upperDigit _ (by omega)))
    · exact .inr (.inr (isAlphanum_upperDigit _ (by omega)))
  · rw [List.mem_singleton] at hx
    exact .inl (hx ▸ hc)

/-- The bytes of a character begin with a percent sign where they are written. -/
theorem exists_encodeChar (c : Char) :
    ∃ cs, (Utf8.encodeChar c).flatMap encodeByte = '%' :: cs := by
  have hne : Utf8.encodeChar c ≠ [] := by
    rw [Utf8.encodeChar]
    split
    · simp
    · split
      · simp
      · split <;> simp
  obtain ⟨b, bytes, hbytes⟩ := List.exists_cons_of_ne_nil hne
  exact ⟨_, by rw [hbytes]; rfl⟩

section Excluded

/-! What is written with percent signs are no digits. -/

variable (hdigit : ∀ c, excluded c = true → digitValue? c = none)
include hdigit

theorem escaped?_encode (cs : List Char) : escaped? (encode excluded cs) = escaped? cs := by
  -- Only the first two characters count, and one that is excluded becomes a percent sign.
  match cs with
  | [] => rfl
  | a :: cs =>
    rw [encode_cons]
    split
    · rename_i ha
      obtain ⟨bytes, hbytes⟩ := exists_encodeChar a
      rw [hbytes, List.cons_append, escaped?_of_head rfl, escaped?_of_head (hdigit a ha)]
    · match cs with
      | [] => rfl
      | b :: cs =>
        rw [encode_cons]
        split
        · rename_i hb
          obtain ⟨bytes, hbytes⟩ := exists_encodeChar b
          rw [hbytes, escaped?_of_second (hdigit b hb)]
          exact escaped?_of_second rfl _
        · rfl

/-- A text stands for the same bytes before and after it is written. -/
theorem decode_encode (hpercent : excluded '%' = false) (cs : List Char) :
    decode (encode excluded cs) = decode cs := by
  induction cs with
  | nil => rfl
  | cons c cs ih =>
    rw [encode_cons]
    split
    · rename_i hc
      have hne : c ≠ '%' := by
        rintro rfl
        rw [hpercent] at hc
        cases hc
      rw [decode_encodeBytes, ih, decode_cons_of_ne hne]
    · exact decode_cons_congr c (escaped?_encode hdigit cs) ih

end Excluded

/-! ## In a path -/

/-- The marks that do not stand in a path. -/
def pathMarks : List Char :=
  [' ', '\x22', '<', '>', '\x60', '#', '?', '\x7b', '\x7d']

theorem cases_of_notInPath {c : Char} (h : notInPath c = true) :
    c.toNat < 0x20 ∨ 0x7F ≤ c.toNat ∨ c ∈ pathMarks := by
  simpa only [notInPath, notInFragment, isOutside, pathMarks, Bool.or_eq_true, decide_eq_true_eq,
    List.contains_eq_mem, List.mem_cons, List.not_mem_nil, or_false, or_assoc] using h

theorem digitValue?_of_notInPath {c : Char} (h : notInPath c = true) : digitValue? c = none := by
  cases hc : digitValue? c with
  | none => rfl
  | some n =>
    have hbounds := bounds_of_digit hc
    have hmarks : ∀ x ∈ pathMarks, digitValue? x = none := by
      simp only [pathMarks, List.forall_mem_cons, List.not_mem_nil, false_implies, implies_true]
      decide
    rcases cases_of_notInPath h with hlow | hhigh | hmark
    · omega
    · omega
    · rw [hmarks c hmark] at hc
      cases hc

theorem bounds_of_alphanum {c : Char} (h : c.isAlphanum = true) :
    48 ≤ c.toNat ∧ c.toNat ≤ 122 := by
  change (decide ('A'.val ≤ c.val ∧ c.val ≤ 'Z'.val) ||
      decide ('a'.val ≤ c.val) && decide (c.val ≤ 'z'.val) ||
      decide ('0'.val ≤ c.val) && decide (c.val ≤ '9'.val)) = true at h
  simp only [Bool.or_eq_true, Bool.and_eq_true, decide_eq_true_eq, UInt32.le_iff_toNat_le] at h
  change (65 ≤ c.toNat ∧ c.toNat ≤ 90 ∨ 97 ≤ c.toNat ∧ c.toNat ≤ 122) ∨
    48 ≤ c.toNat ∧ c.toNat ≤ 57 at h
  omega

theorem notInPath_of_alphanum {c : Char} (h : c.isAlphanum = true) : notInPath c = false := by
  have hbounds := bounds_of_alphanum h
  have hmarks : ∀ x ∈ pathMarks, x.isAlphanum = false := by
    simp only [pathMarks, List.forall_mem_cons, List.not_mem_nil, false_implies, implies_true]
    decide
  rw [Bool.eq_false_iff]
  intro hc
  rcases cases_of_notInPath hc with hlow | hhigh | hmark
  · omega
  · omega
  · rw [hmarks c hmark] at h
    cases h

/-- Where a text is written as part of a path, the bytes it stands for stay. -/
theorem decode_encode_notInPath (cs : List Char) : decode (encode notInPath cs) = decode cs :=
  decode_encode (fun _ => digitValue?_of_notInPath) rfl cs

end Percent

namespace UrlPath

open Percent

theorem plainDots_cons_of_ne {c : Char} (h : c ≠ '%') (cs : List Char) :
    plainDots (c :: cs) = c :: plainDots cs := by
  rw [plainDots]
  · intro rest hpercent
    exact absurd hpercent h
  · intro rest hpercent
    exact absurd hpercent h

theorem plainDots_percent (cs : List Char) :
    ∃ c ds, plainDots ('%' :: cs) = c :: ds ∧ digitValue? c = none := by
  unfold plainDots
  split
  · exact ⟨_, _, rfl, rfl⟩
  · exact ⟨_, _, rfl, rfl⟩
  · rename_i heq
    obtain ⟨rfl, rfl⟩ := List.cons.inj heq
    exact ⟨_, _, rfl, rfl⟩
  · rename_i heq
    cases heq

/-- What dots are written out leaves no digits behind a percent sign that were not
there. -/
theorem escaped?_plainDots (cs : List Char) : escaped? (plainDots cs) = escaped? cs := by
  -- As before: where a dot is written out, a percent sign has stood.
  match cs with
  | [] => rfl
  | a :: cs =>
    by_cases ha : a = '%'
    · obtain ⟨c, ds, hdots, hc⟩ := plainDots_percent cs
      rw [ha, hdots, escaped?_of_head hc, escaped?_of_head rfl]
    · rw [plainDots_cons_of_ne ha]
      match cs with
      | [] => rfl
      | b :: cs =>
        by_cases hb : b = '%'
        · obtain ⟨c, ds, hdots, hc⟩ := plainDots_percent cs
          rw [hb, hdots, escaped?_of_second hc, escaped?_of_second rfl]
        · rw [plainDots_cons_of_ne hb]
          rfl

/-- A text stands for the same bytes with its dots written out. -/
theorem decode_plainDots (cs : List Char) : decode (plainDots cs) = decode cs := by
  fun_induction plainDots cs with
  | case1 rest ih =>
    rw [decode_cons_of_ne (by decide), ih]
    rfl
  | case2 rest ih =>
    rw [decode_cons_of_ne (by decide), ih]
    rfl
  | case3 c rest _ _ ih => exact decode_cons_congr c (escaped?_plainDots rest) ih
  | case4 => rfl

end UrlPath

end RelayHub
