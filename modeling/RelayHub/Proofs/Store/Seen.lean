/-
The records of answered transactions in a map.

A transaction is seen once it has a record. A record is written where there is
none and never changed again: storing blocks writes other keys, and recording a
transaction again does nothing.
-/
import RelayHub.Proofs.Store.Archive

set_option autoImplicit false

namespace RelayHub

open RelayHub.Action BlockStore

variable {chain : ChainId} {m m' : ByteMap}

/-- Whether a map has a record of a transaction of a chain. -/
def seen (chain : ChainId) (m : ByteMap) (txHash : String) : Bool :=
  m.contains (Key.transaction chain txHash)

/-- The bytes of the record of a transaction. -/
def recordAt (chain : ChainId) (m : ByteMap) (txHash : String) : Option Bytes :=
  m.get? (Key.transaction chain txHash)

theorem seen_eq (txHash : String) : seen chain m txHash = (recordAt chain m txHash).isSome := rfl

theorem seen_of_recordAt_eq {txHash : String}
    (h : recordAt chain m' txHash = recordAt chain m txHash) :
    seen chain m' txHash = seen chain m txHash := by
  rw [seen_eq, seen_eq, h]

/-! ## Asking and recording -/

/-- The map with a record of a transaction. -/
def withRecord (chain : ChainId) (m : ByteMap) (r : DedupRecord) : ByteMap :=
  m.insert (Key.transaction chain r.txHash) r.encode

theorem recordAt_withRecord (r : DedupRecord) (txHash : String) :
    recordAt chain (withRecord chain m r) txHash
      = if txHash = r.txHash then some r.encode else recordAt chain m txHash := by
  rw [recordAt, withRecord, ByteMap.get?_insert]
  simp only [Key.transaction_inj, recordAt]

/-- A record is written under no key of another kind. -/
theorem get?_withRecord_of_kind (r : DedupRecord) {k : KeyKind} (hk : k ≠ .transaction)
    (c : ChainId) (suffix : Bytes) :
    (withRecord chain m r).get? (k.key c suffix) = m.get? (k.key c suffix) := by
  rw [withRecord, ByteMap.get?_insert]
  exact if_neg (KeyKind.key_ne hk _ _ _ _)

theorem hasSeen_perform (txHash : String) :
    ((inMemory chain).hasSeen txHash).perform m = (.ok (seen chain m txHash), m) := rfl

theorem recordSeen_perform (r : DedupRecord) :
    ((inMemory chain).recordSeen r).perform m =
      if seen chain m r.txHash then (.ok false, m) else (.ok true, withRecord chain m r) := by
  change (recordOnce ByteMap.backend chain r).perform m = _
  have hhas : ((ByteMap.backend.has (Key.transaction chain r.txHash)).mapError
      StoreError.database).perform m
      = (.ok (seen chain m r.txHash), m) := rfl
  rw [recordOnce, perform_bind_ok hhas]
  cases seen chain m r.txHash <;> rfl

theorem decoded_record {r : DedupRecord} (hr : r.Fits) :
    decoded (DedupRecord.decode r.encode) = .ok r := by
  have hread := DedupRecord.decode_encode hr []
  rw [List.append_nil] at hread
  rw [decoded, hread]
  rfl

/-- A record that fits is read back. -/
theorem transaction_perform {r : DedupRecord} (hr : r.Fits) {txHash : String}
    (h : recordAt chain m txHash = some r.encode) :
    ((inMemory chain).transaction txHash).perform m = (.ok (some r), m) := by
  refine Archive.read_perform (v := some r) h ?_
  rintro _ ⟨⟩
  exact decoded_record hr

/-! ## Storing blocks -/

theorem get?_insertAll_ne {key : Bytes} {added : List (Bytes × Bytes)}
    (h : ∀ e ∈ added, key ≠ e.1) : (m.insertAll added).get? key = m.get? key := by
  rw [ByteMap.get?_insertAll]
  generalize m.get? key = found
  induction added with
  | nil => rfl
  | cons e added ih =>
    rw [List.foldl_cons, if_neg (h e List.mem_cons_self)]
    exact ih fun e' he' => h e' (List.mem_cons_of_mem _ he')

/-- Whatever a map holds, the link that goes with a block is written under the
key of a block. -/
theorem linkEntry_keys {b : StoredBlock} {link : List (Bytes × Bytes)}
    (h : (linkEntry ByteMap.backend b).perform m = (.ok link, m')) :
    ∀ e ∈ link, ∃ number, e.1 = Key.block b.chain number := by
  unfold linkEntry at h
  split at h
  · cases h
    simp
  · rcases of_perform_bind h with ⟨_, -, ⟨⟩⟩ | ⟨_ | number, m₁, -, h₁⟩
    · cases h₁
      simp
    · rcases of_perform_bind h₁ with ⟨_, -, ⟨⟩⟩ | ⟨_ | previous, m₂, -, h₂⟩
      · cases h₂
      · dsimp only at h₂
        split at h₂ <;> cases h₂
        · simp
        · rintro _ (_ | ⟨_, ⟨⟩⟩)
          exact ⟨_, rfl⟩

theorem latestEntry_keys {b : StoredBlock} {latest : List (Bytes × Bytes)}
    (h : (latestEntry ByteMap.backend b).perform m = (.ok latest, m')) :
    ∀ e ∈ latest, e.1 = Key.latest b.chain := by
  rcases of_perform_bind h with ⟨_, -, ⟨⟩⟩ | ⟨n, m₁, -, h₁⟩
  cases h₁
  split <;> simp

/-- Storing a block writes under the keys of its chain's blocks, whatever else the
map holds. -/
theorem storeBlock_get? {b : StoredBlock} {r : Except StoreError Unit}
    (h : ((inMemory chain).storeBlock b).perform m = (r, m')) {key : Bytes}
    (hkey : ¬ Key.OfBlocks b.chain key) : m'.get? key = m.get? key := by
  change (writeBlock ByteMap.backend b).perform m = _ at h
  rcases of_perform_bind h with ⟨_, hm, -⟩ | ⟨existing, m₁, hm₁, h₁⟩
  · rw [show m' = m from readBlock_keeps get_keeps _ _ hm]
  obtain rfl : m₁ = m := readBlock_keeps get_keeps _ _ hm₁
  have hchain : (keepLink b existing).chain = b.chain := by rw [Archive.keepLink_eq]
  rcases of_perform_bind h₁ with ⟨_, hm, -⟩ | ⟨link, m₂, hm₂, h₂⟩
  · rw [show m' = m₁ from linkEntry_keeps get_keeps _ hm]
  obtain rfl : m₂ = m₁ := linkEntry_keeps get_keeps _ hm₂
  rcases of_perform_bind h₂ with ⟨_, hm, -⟩ | ⟨latest, m₃, hm₃, h₃⟩
  · rw [show m' = m₂ from latestEntry_keeps get_keeps _ hm]
  obtain rfl : m₃ = m₂ := latestEntry_keeps get_keeps _ hm₃
  cases h₃
  refine get?_insertAll_ne fun e he => ?_
  rintro rfl
  apply hkey
  rw [← hchain]
  simp only [List.mem_append, List.mem_cons, List.not_mem_nil, or_false] at he
  rcases he with (he | rfl | he) | rfl
  · obtain ⟨number, hkey⟩ := linkEntry_keys hm₂ e he
    rw [hkey]
    exact Key.ofBlocks_block _ _
  · exact Key.ofBlocks_hash _ _
  · rw [latestEntry_keys hm₃ e he]
    exact Key.ofBlocks_latest _
  · exact Key.ofBlocks_block _ _

/-- Storing a block leaves the records of transactions alone. -/
theorem storeBlock_recordAt {b : StoredBlock} {r : Except StoreError Unit}
    (h : ((inMemory chain).storeBlock b).perform m = (r, m')) (txHash : String) :
    recordAt chain m' txHash = recordAt chain m txHash :=
  storeBlock_get? h Key.not_ofBlocks_transaction

/-! ## Records and blocks side by side -/

/-- A record changes nothing about stored blocks. -/
theorem Archive.On.withRecord {a : Archive} (h : a.On chain m) (r : DedupRecord) :
    a.On chain (withRecord chain m r) where
  block n := (get?_withRecord_of_kind r (by decide) _ _).trans (h.block n)
  hash t := (get?_withRecord_of_kind r (by decide) _ _).trans (h.hash t)
  latest := (get?_withRecord_of_kind r (by decide) _ _).trans h.latest
  fits := h.fits

end RelayHub
