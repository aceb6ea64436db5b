/-
Records are read back from their stored bytes, whatever follows them.

A record is its fields one after the other, and each field's reader stops where
its writer stopped; the two proofs below peel the fields off in order. `Fits`
says that the lengths of a record's texts are words, which is all that is asked
of it.
-/
import RelayHub.Proofs.Store.Layout
import RelayHub.Store.Record

set_option autoImplicit false

namespace RelayHub

open Layout

/-! ## Stored blocks -/

/-- A block that can be laid out. -/
structure StoredBlock.Fits (b : StoredBlock) : Prop where
  chain : FitsText b.chain.name
  previousHash : FitsText b.previousHash
  hash : FitsText b.hash
  dataHash : FitsText b.dataHash
  origin : FitsHex b.origin
  nextHash : ∀ h ∈ b.nextHash, FitsText h

/-- A block is read back from its bytes. -/
theorem StoredBlock.decode_encode {b : StoredBlock} (h : b.Fits) (rest : Bytes) :
    decode (b.encode ++ rest) = .ok b := by
  -- Field by field, each taking what it wrote and leaving the rest to the next.
  simp only [decode, encode, List.append_assoc]
  rw [takeText_text h.chain]
  simp only [bind, Except.bind]
  rw [takeWord_word]
  dsimp only
  rw [takeText_text h.previousHash]
  dsimp only
  rw [takeText_text h.hash]
  dsimp only
  rw [takeText_text h.dataHash]
  dsimp only
  rw [takeSigned_signed]
  dsimp only
  rw [takeWord_word]
  dsimp only
  rw [takeHex_hex h.origin]
  dsimp only
  rw [takeOptionalText_optionalText h.nextHash]
  rfl

/-! ## Records of answered transactions -/

/-- A record that can be laid out. -/
structure DedupRecord.Fits (r : DedupRecord) : Prop where
  txHash : FitsText r.txHash
  blockHash : FitsText r.blockHash
  origin : FitsHex r.origin

/-- A record is read back from its bytes. -/
theorem DedupRecord.decode_encode {r : DedupRecord} (h : r.Fits) (rest : Bytes) :
    decode (r.encode ++ rest) = .ok r := by
  simp only [decode, encode, List.append_assoc]
  rw [takeText_text h.txHash]
  simp only [bind, Except.bind]
  rw [takeWord_word]
  dsimp only
  rw [takeText_text h.blockHash]
  dsimp only
  rw [takeHex_hex h.origin]
  rfl

/-! ## Blocks of a ledger -/

/-- A block of a ledger whose texts have lengths that are words, as all texts
in memory have. -/
structure RawBlock.Fits (b : RawBlock) : Prop where
  previousHash : FitsText b.previousHash
  hash : FitsText b.hash
  dataHash : FitsText b.dataHash
  origin : FitsHex b.origin
  txHash {e : Envelope} {t : String} : e ∈ b.envelopes → e.txHash = some t → FitsText t
  raw {e : Envelope} : e ∈ b.envelopes → FitsHex e.raw

/-- The record of a block fits if the block does. -/
theorem StoredBlock.ofRaw_fits {chain : ChainId} (hchain : FitsText chain.name) {b : RawBlock}
    (h : b.Fits) {nextHash : Option String} (hnext : ∀ t ∈ nextHash, FitsText t) :
    { ofRaw chain b with nextHash }.Fits where
  chain := hchain
  previousHash := h.previousHash
  hash := h.hash
  dataHash := h.dataHash
  origin := h.origin
  nextHash := hnext

end RelayHub
