/-
The stored format of records, and that reading it undoes writing it.

A record is its data one after the other. `Datum.LaidOut` says by rules what the
bytes of one datum are, without a word about how they are written or read: a
number is eight bytes, least significant first; bytes stand after their number; a
text is its bytes, a byte string inside a record is a text of digits, and a text
that may be absent stands after a byte that says whether it is there. `Faithful`
says of a type that its values are written by these rules and read back whatever
follows them, so that no value is taken for another one, and that the values it
says this of are all that any bytes are read as.
-/
import RelayHub.Proofs.Bytes
import RelayHub.Proofs.Store.ByteMap
import RelayHub.Proofs.Store.Record
import RelayHub.Proofs.Text.Strict

set_option autoImplicit false

namespace RelayHub

namespace Layout

/-! ## The format -/

/-- A piece of data in a record. -/
inductive Datum where
  | number (n : UInt64)
  | block (bytes : Bytes)
  | text (s : String)
  | digits (bytes : Bytes)
  | perhaps (s : Option String)

/-- The bytes of a datum. -/
inductive Datum.LaidOut : Datum → Bytes → Prop where
  | number {n : UInt64} {out : Bytes} (hlength : out.length = 8)
      (hvalue : Bytes.toNat out.reverse = n.toNat) : LaidOut (.number n) out
  | block {n : UInt64} {count bytes : Bytes} (hcount : LaidOut (.number n) count)
      (hlength : n.toNat = bytes.length) : LaidOut (.block bytes) (count ++ bytes)
  | text {s : String} {out : Bytes} (h : LaidOut (.block (Utf8.encode s)) out) :
      LaidOut (.text s) out
  | digits {bytes out : Bytes} (h : LaidOut (.text (Hex.encode bytes)) out) :
      LaidOut (.digits bytes) out
  | absent : LaidOut (.perhaps none) [0]
  | present {s : String} {out : Bytes} (h : LaidOut (.text s) out) :
      LaidOut (.perhaps (some s)) (1 :: out)

/-- The bytes of data, one after the other. -/
inductive LaidOut : List Datum → Bytes → Prop where
  | nil : LaidOut [] []
  | cons {d : Datum} {data : List Datum} {out rest : Bytes} (h : d.LaidOut out)
      (hrest : LaidOut data rest) : LaidOut (d :: data) (out ++ rest)

/-! ### Writers keep to it -/

theorem word_laidOut (n : UInt64) : (Datum.number n).LaidOut (word n) :=
  .number rfl (Bytes.toNat_ofWordBE n)

theorem block_laidOut {bytes : Bytes} (h : bytes.length < UInt64.size) :
    (Datum.block bytes).LaidOut (block bytes) :=
  .block (word_laidOut _) (toNat_length h)

theorem text_laidOut {s : String} (h : FitsText s) : (Datum.text s).LaidOut (text s) :=
  .text (block_laidOut h)

theorem hex_laidOut {bytes : Bytes} (h : FitsHex bytes) :
    (Datum.digits bytes).LaidOut (hex bytes) :=
  .digits (text_laidOut (fitsText_encode h))

theorem optionalText_laidOut {o : Option String} (h : ∀ s ∈ o, FitsText s) :
    (Datum.perhaps o).LaidOut (optionalText o) := by
  cases o with
  | none => exact .absent
  | some s => exact .present (text_laidOut (h s rfl))

/-! ## Only what fits is read -/

/-- What is read in two steps is read by each of them. -/
theorem steps_of_ok {α β : Type} {first : Except Error α} {next : α → Except Error β} {b : β}
    (h : first >>= next = .ok b) : ∃ a, first = .ok a ∧ next a = .ok b := by
  cases first with
  | error e => cases h
  | ok a => exact ⟨a, rfl, h⟩

theorem fitsText_of_takeText {bytes rest : Bytes} {s : String}
    (h : takeText bytes = .ok (s, rest)) : FitsText s := by
  obtain ⟨⟨n, more⟩, -, h⟩ := steps_of_ok h
  dsimp only at h
  split at h
  · cases h
  · split at h
    · rename_i hbody
      cases h
      -- the bytes of the text are those that its length asked for
      have hlength : (more.take n.toNat).length ≤ n.toNat := List.length_take_le _ _
      rw [← Utf8.decode?_eq_some_iff.1 hbody] at hlength
      exact Nat.lt_of_le_of_lt hlength n.toNat_lt_size
    · cases h

theorem fitsHex_of_takeHex {bytes rest value : Bytes}
    (h : takeHex bytes = .ok (value, rest)) : FitsHex value := by
  obtain ⟨⟨s, more⟩, htext, h⟩ := steps_of_ok h
  dsimp only at h
  split at h
  · rename_i hvalue
    cases h
    have hfits := fitsText_of_takeText htext
    rwa [FitsText, Hex.length_of_decode hvalue] at hfits
  · cases h

theorem fits_of_takeOptionalText {bytes rest : Bytes} {o : Option String}
    (h : takeOptionalText bytes = .ok (o, rest)) : ∀ s ∈ o, FitsText s := by
  cases bytes with
  | nil => cases h
  | cons tag more =>
    rw [takeOptionalText] at h
    split at h
    · cases h
      simp
    · split at h
      · rcases htext : takeText more with e | ⟨s, after⟩ <;> rw [htext] at h
        · cases h
        · cases h
          intro t ht
          obtain rfl := Option.some.inj ht
          exact fitsText_of_takeText htext
      · cases h

/-! ## Faithful formats -/

/-- Values of a type are laid out as their data and read back from their bytes,
whatever follows. These are all values that are ever read, and none of them has
the bytes of another one, even as a beginning. -/
structure Faithful {α : Type} (Fits : α → Prop) (data : α → List Datum) (encode : α → Bytes)
    (decode : Bytes → Except Error α) : Prop where
  laidOut {a : α} : Fits a → LaidOut (data a) (encode a)
  readsBack {a : α} : Fits a → ∀ rest, decode (encode a ++ rest) = .ok a
  fits {a : α} {bytes : Bytes} : decode bytes = .ok a → Fits a
  apart {a b : α} {rest rest' : Bytes} : Fits a → Fits b → encode a ++ rest = encode b ++ rest' →
    a = b ∧ rest = rest'

/-- What is read back, whatever follows, is told apart. -/
theorem apart_of_readsBack {α : Type} {Fits : α → Prop} {encode : α → Bytes}
    {decode : Bytes → Except Error α}
    (h : ∀ {a}, Fits a → ∀ rest, decode (encode a ++ rest) = .ok a) {a b : α} {rest rest' : Bytes}
    (ha : Fits a) (hb : Fits b) (heq : encode a ++ rest = encode b ++ rest') :
    a = b ∧ rest = rest' := by
  have hread : Except.ok (ε := Error) a = .ok b := by
    rw [← h ha rest, heq, h hb rest']
  cases hread
  exact ⟨rfl, List.append_cancel_left heq⟩

end Layout

open Layout

/-! ## Stored blocks -/

namespace StoredBlock

/-- The data of a stored block. A time before the epoch is the word that it is in
two's complement. -/
def data (b : StoredBlock) : List Datum :=
  [.text b.chain.name, .number b.number, .text b.previousHash, .text b.hash, .text b.dataHash,
   .number b.timestamp.toUInt64, .number b.txCount, .digits b.origin, .perhaps b.nextHash]

theorem encode_laidOut {b : StoredBlock} (h : b.Fits) : LaidOut b.data b.encode := by
  have hpieces : b.encode = text b.chain.name ++ (word b.number ++ (text b.previousHash ++
      (text b.hash ++ (text b.dataHash ++ (signed b.timestamp ++ (word b.txCount ++
        (Layout.hex b.origin ++ (optionalText b.nextHash ++ [])))))))) := by
    simp only [encode, List.append_assoc, List.append_nil]
  rw [hpieces]
  exact .cons (text_laidOut h.chain) <| .cons (word_laidOut _) <|
    .cons (text_laidOut h.previousHash) <| .cons (text_laidOut h.hash) <|
    .cons (text_laidOut h.dataHash) <| .cons (word_laidOut _) <| .cons (word_laidOut _) <|
    .cons (hex_laidOut h.origin) <| .cons (optionalText_laidOut h.nextHash) .nil

theorem fits_of_decode {bytes : Bytes} {b : StoredBlock} (h : decode bytes = .ok b) : b.Fits := by
  obtain ⟨_, hchain, h⟩ := steps_of_ok h
  obtain ⟨_, -, h⟩ := steps_of_ok h
  obtain ⟨_, hprevious, h⟩ := steps_of_ok h
  obtain ⟨_, hhash, h⟩ := steps_of_ok h
  obtain ⟨_, hdata, h⟩ := steps_of_ok h
  obtain ⟨_, -, h⟩ := steps_of_ok h
  obtain ⟨_, -, h⟩ := steps_of_ok h
  obtain ⟨_, horigin, h⟩ := steps_of_ok h
  obtain ⟨_, hnext, h⟩ := steps_of_ok h
  cases h
  exact {
    chain := fitsText_of_takeText hchain
    previousHash := fitsText_of_takeText hprevious
    hash := fitsText_of_takeText hhash
    dataHash := fitsText_of_takeText hdata
    origin := fitsHex_of_takeHex horigin
    nextHash := fits_of_takeOptionalText hnext }

theorem format_faithful : Faithful Fits data encode decode where
  laidOut := encode_laidOut
  readsBack := decode_encode
  fits := fits_of_decode
  apart := apart_of_readsBack decode_encode

end StoredBlock

/-! ## Records of answered transactions -/

namespace DedupRecord

/-- The data of the record of an answered transaction. -/
def data (r : DedupRecord) : List Datum :=
  [.text r.txHash, .number r.blockNumber, .text r.blockHash, .digits r.origin]

theorem encode_laidOut {r : DedupRecord} (h : r.Fits) : LaidOut r.data r.encode := by
  have hpieces : r.encode = text r.txHash ++ (word r.blockNumber ++ (text r.blockHash ++
      (Layout.hex r.origin ++ []))) := by
    simp only [encode, List.append_assoc, List.append_nil]
  rw [hpieces]
  exact .cons (text_laidOut h.txHash) <| .cons (word_laidOut _) <|
    .cons (text_laidOut h.blockHash) <| .cons (hex_laidOut h.origin) .nil

theorem fits_of_decode {bytes : Bytes} {r : DedupRecord} (h : decode bytes = .ok r) : r.Fits := by
  obtain ⟨_, htx, h⟩ := steps_of_ok h
  obtain ⟨_, -, h⟩ := steps_of_ok h
  obtain ⟨_, hhash, h⟩ := steps_of_ok h
  obtain ⟨_, horigin, h⟩ := steps_of_ok h
  cases h
  exact {
    txHash := fitsText_of_takeText htx
    blockHash := fitsText_of_takeText hhash
    origin := fitsHex_of_takeHex horigin }

theorem format_faithful : Faithful Fits data encode decode where
  laidOut := encode_laidOut
  readsBack := decode_encode
  fits := fits_of_decode
  apart := apart_of_readsBack decode_encode

end DedupRecord

/-! ## Maps -/

namespace ByteMap

/-- The data of a map: how many entries there are, and each key with its value. -/
def data (m : ByteMap) : List Datum :=
  .number (UInt64.ofNat m.size) :: m.entries.flatMap fun e => [.block e.1, .block e.2]

theorem entries_laidOut {entries : List (Bytes × Bytes)} (h : ∀ e ∈ entries, FitsEntry e) :
    LaidOut (entries.flatMap fun e => [.block e.1, .block e.2])
      (entries.flatMap fun e => block e.1 ++ block e.2) := by
  induction entries with
  | nil => exact .nil
  | cons e entries ih =>
    obtain ⟨⟨hkey, hvalue⟩, hrest⟩ := List.forall_mem_cons.1 h
    rw [List.flatMap_cons, List.flatMap_cons, List.append_assoc]
    exact .cons (block_laidOut hkey) (.cons (block_laidOut hvalue) (ih hrest))

theorem encode_laidOut {m : ByteMap} (h : m.Fits) : LaidOut m.data m.encode :=
  .cons (word_laidOut _) (entries_laidOut fun _ he => h.entry he)

theorem format_faithful : Faithful Fits data encode decode where
  laidOut := encode_laidOut
  readsBack := decode_encode
  fits := fits_of_decode
  apart := apart_of_readsBack decode_encode

end ByteMap

/-! ## All of them -/

/-- What is stored is stored faithfully: blocks, records of answered transactions,
and the maps that hold both. -/
theorem stored_formats_are_faithful :
    Faithful StoredBlock.Fits StoredBlock.data StoredBlock.encode StoredBlock.decode ∧
      Faithful DedupRecord.Fits DedupRecord.data DedupRecord.encode DedupRecord.decode ∧
      Faithful ByteMap.Fits ByteMap.data ByteMap.encode ByteMap.decode :=
  ⟨StoredBlock.format_faithful, DedupRecord.format_faithful, ByteMap.format_faithful⟩

/-- A block whose successor is known, from before the epoch, of a chain whose name
ends in a zero byte. -/
def linkedBlock : StoredBlock where
  chain := ⟨"Ä\x00"⟩
  number := 0x0102
  previousHash := ""
  hash := "h2"
  dataHash := "d2"
  timestamp := -1
  txCount := 3
  origin := [0x00, 0xAB]
  nextHash := some "h3"

/-- The record of a transaction in that block. -/
def linkedRecord : DedupRecord :=
  ⟨"t1", 0x0102, "h2", [0xFF]⟩

/-- A map that holds both. -/
def linkedMap : ByteMap :=
  ByteMap.empty.insertAll [([0x74], linkedRecord.encode), ([0x62], linkedBlock.encode)]

/-- The block, the record and the map are read back with something behind them,
and the block has other bytes without its successor. -/
theorem linkedBlock_kept :
    (linkedBlock.Fits ∧ StoredBlock.decode (linkedBlock.encode ++ [1, 0]) = .ok linkedBlock) ∧
      (linkedRecord.Fits ∧ DedupRecord.decode (linkedRecord.encode ++ [0]) = .ok linkedRecord) ∧
      (linkedMap.Fits ∧ ByteMap.decode (linkedMap.encode ++ [0]) = .ok linkedMap) ∧
      { linkedBlock with nextHash := none }.encode ≠ linkedBlock.encode := by
  obtain ⟨hblocks, hrecords, hmaps⟩ := stored_formats_are_faithful
  have hblock : linkedBlock.Fits := by constructor <;> decide
  have hrecord : linkedRecord.Fits := by constructor <;> decide
  have hmap : linkedMap.Fits := by
    have hadded : ∀ e ∈ [([0x74], linkedRecord.encode), ([0x62], linkedBlock.encode)],
        ByteMap.FitsEntry e := by
      unfold ByteMap.FitsEntry
      decide
    have hempty : ByteMap.empty.Fits := ⟨by decide, fun h => absurd h List.not_mem_nil⟩
    exact hempty.insertAll hadded (by decide)
  have halone : { linkedBlock with nextHash := none }.Fits := { hblock with nextHash := by simp }
  refine ⟨⟨hblock, hblocks.readsBack hblock _⟩, ⟨hrecord, hrecords.readsBack hrecord _⟩,
    ⟨hmap, hmaps.readsBack hmap _⟩, ?_⟩
  intro hencode
  have happended : { linkedBlock with nextHash := none }.encode ++ [] = linkedBlock.encode ++ [] :=
    congrArg (· ++ []) hencode
  have hsame := (hblocks.apart halone hblock happended).1
  exact absurd hsame (by decide)

end RelayHub
