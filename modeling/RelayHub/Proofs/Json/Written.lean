/-
What codecs write is text.

A codec writes bytes, and hubs exchange texts: a server refuses a body that is
not UTF-8, and the body of a failure is read as a text. What is written
consists of ASCII and of the characters of strings, so it is the bytes of a
text. Each shape has this from the shapes inside it, and then what
`RelayHub.Proofs.Json.Codec` says of bytes holds of texts.
-/
import RelayHub.Proofs.Json.Record

set_option autoImplicit false

namespace RelayHub.Json

open Utf8

variable {α β : Type}

/-! ## Strings and numbers -/

/-- The letter of a control character is a letter. -/
theorem ascii_of_shortControl {c : Char} {letter : UInt8} (h : shortControl? c = some letter) :
    letter < 0x80 := by
  unfold shortControl? at h
  repeat' split at h
  all_goals cases h
  all_goals decide

theorem ascii_hexDigit : ∀ n < 16, hexDigit n < 0x80 := by
  decide

theorem isText_writeChar (c : Char) : IsText (writeChar c) := by
  have hbackslash : backslash < 0x80 := by decide
  unfold writeChar
  split
  · exact .cons hbackslash (isText_singleton (by decide))
  split
  · exact .cons hbackslash (isText_singleton hbackslash)
  split
  · rename_i hlow
    split
    · rename_i letter hletter
      exact .cons hbackslash (isText_singleton (ascii_of_shortControl hletter))
    · have hfirst := ascii_hexDigit (c.toNat / 16) (by omega)
      have hsecond := ascii_hexDigit (c.toNat % 16) (by omega)
      exact .cons hbackslash <| .cons (by decide) <| .cons (by decide) <| .cons (by decide) <|
        .cons hfirst (isText_singleton hsecond)
  · exact isText_encodeChar c

theorem isText_writeText (s : String) : IsText (writeText s) := by
  have hquote : quote < 0x80 := by decide
  have hchars : ∀ cs : List Char, IsText (cs.flatMap writeChar) := by
    intro cs
    induction cs with
    | nil => exact isText_nil
    | cons c cs ih => exact (isText_writeChar c).append ih
  exact .cons hquote ((hchars s.toList).append (isText_singleton hquote))

theorem isText_writeNat (n : Nat) : IsText (writeNat n) := by
  refine .of_ascii fun b hb => ?_
  obtain ⟨c, hc, rfl⟩ := List.mem_map.1 hb
  have hdigit : c.isDigit = true := Nat.isDigit_of_mem_toDigits (by decide) (by decide) hc
  have hlow := (bounds_of_isDigit hdigit).2
  rw [UInt8.lt_iff_toNat_lt, toNat_ofNat_byte (by omega)]
  exact Nat.lt_of_lt_of_le hlow (by decide)

theorem isText_writeInt (n : Int) : IsText (writeInt n) := by
  unfold writeInt
  split
  · exact .cons (by decide) (isText_writeNat _)
  · exact isText_writeNat _

/-- Texts with commas between them. -/
theorem isText_separated {items : List Bytes} (h : ∀ item ∈ items, IsText item) :
    IsText (separated items) := by
  cases items with
  | nil => exact isText_nil
  | cons item items =>
    obtain ⟨hitem, hitems⟩ := List.forall_mem_cons.1 h
    rw [Codec.separated_cons]
    refine hitem.append ?_
    clear h
    induction items with
    | nil => exact isText_nil
    | cons next items ih =>
      obtain ⟨hnext, hitems⟩ := List.forall_mem_cons.1 hitems
      exact .cons (by decide) (hnext.append (ih hitems))

/-! ## Codecs -/

namespace Codec

/-- A codec that writes texts. -/
def Textual (c : Codec α) : Prop :=
  ∀ v, IsText (c.write v)

/-- What a faithful codec writes is read back as a text as well. -/
theorem Faithful.decodeText_encodeText {c : Codec α} (h : c.Faithful) (htext : c.Textual) (v : α) :
    c.decodeText (c.encodeText v) = .ok v := by
  rw [decodeText, encodeText, (htext v).encode_decodeLossy, h.decode_write]

theorem Textual.imap {c : Codec α} (h : c.Textual) (forth : α → β) (back : β → α) :
    (c.imap forth back).Textual :=
  fun v => h (back v)

theorem text_textual : text.Textual :=
  isText_writeText

theorem hex_textual : hex.Textual :=
  fun _ => isText_writeText _

theorem whole_textual (name : String) (low high : Int) : (whole name low high).Textual :=
  isText_writeInt

theorem choice_textual (names : List (String × α)) (nameOf : α → String) :
    (choice names nameOf).Textual :=
  fun _ => isText_writeText _

theorem Textual.optional {c : Codec α} (h : c.Textual) : c.optional.Textual := by
  intro o
  cases o with
  | none => exact isText_encode "null"
  | some v => exact h v

theorem Textual.list {c : Codec α} (h : c.Textual) : c.list.Textual := by
  intro vs
  have hitems : ∀ item ∈ vs.map c.write, IsText item := by
    intro item hitem
    obtain ⟨v, -, rfl⟩ := List.mem_map.1 hitem
    exact h v
  exact .cons (by decide) ((isText_separated hitems).append (isText_singleton (by decide)))

end Codec

/-! ## Records -/

/-- Fields whose codecs write texts. -/
def Fields.Textual : {γ σ : Type} → Fields γ σ → Prop
  | _, _, .none => True
  | _, _, .more f others => f.codec.Textual ∧ others.Textual

theorem Fields.isText_members {γ σ : Type} {fs : Fields γ σ} (h : fs.Textual) (vs : γ) :
    ∀ item ∈ fs.members vs, IsText item := by
  induction fs with
  | none => exact fun item hitem => nomatch hitem
  | more f others ih =>
    obtain ⟨v, vs⟩ := vs
    obtain ⟨hcodec, hothers⟩ := h
    unfold members
    split
    · exact ih hothers vs
    · have hmember : IsText (writeText f.name ++ colon :: f.codec.write v) :=
        (isText_writeText f.name).append (.cons (by decide) (hcodec v))
      exact List.forall_mem_cons.2 ⟨hmember, ih hothers vs⟩

theorem Codec.record_textual {α γ σ : Type} {name : String} {fs : Fields γ σ} {make : γ → α}
    {parts : α → γ} (h : fs.Textual) : (Codec.record name fs make parts).Textual := fun v =>
  .cons (by decide)
    ((isText_separated (Fields.isText_members h (parts v))).append (isText_singleton (by decide)))

end RelayHub.Json
