/-
What a block store over a map holds of one chain.

An archive is the contents of a store without keys and layouts: blocks by
number, numbers by hash, and the greatest number. `On` says which map holds
which archive. Reads of the map answer what the archive says, and `put` is what
storing a block does to it; everything about stored blocks is proved about
archives from there on.
-/
import RelayHub.Proofs.Store.ByteMap
import RelayHub.Proofs.Store.Faithful
import RelayHub.Proofs.Store.Key
import RelayHub.Proofs.Store.Record

set_option autoImplicit false

namespace RelayHub

open RelayHub.Action BlockStore

/-! ## Archives -/

/-- The blocks of a chain, as they are stored. -/
@[ext] structure Archive where
  blocks : UInt64 → Option StoredBlock
  numbers : String → Option UInt64
  latest : Option UInt64
  numbered : ∀ {n b}, blocks n = some b → b.number = n
  indexed : ∀ {h n}, numbers h = some n → (blocks n).isSome

namespace Archive

/-- The archive of a store that has no blocks. -/
def empty : Archive where
  blocks _ := none
  numbers _ := none
  latest := none
  numbered h := nomatch h
  indexed h := nomatch h

/-- The stored block that a block will be the successor of: the predecessor it
names, unless that has a successor. -/
def predecessor? (a : Archive) (b : StoredBlock) : Option StoredBlock :=
  if b.previousHash.isEmpty then none
  else ((a.numbers b.previousHash).bind a.blocks).filter fun p => p.nextHash.isNone

/-- The blocks, with the predecessor of a block linked to it. -/
def relinked (a : Archive) (b : StoredBlock) (n : UInt64) : Option StoredBlock :=
  match a.predecessor? b with
  | some p => if n = p.number then some { p with nextHash := some b.hash } else a.blocks n
  | none => a.blocks n

theorem relinked_numbered {a : Archive} {b c : StoredBlock} {n : UInt64}
    (h : a.relinked b n = some c) : c.number = n := by
  unfold relinked at h
  split at h
  · split at h
    · rename_i hn
      cases h
      exact hn.symm
    · exact a.numbered h
  · exact a.numbered h

theorem relinked_isSome {a : Archive} {b : StoredBlock} {n : UInt64} (h : (a.blocks n).isSome) :
    (a.relinked b n).isSome := by
  unfold relinked
  split
  · split
    · rfl
    · exact h
  · exact h

/-- Storing a block again changes no more of it than its link. -/
theorem keepLink_eq (b : StoredBlock) (old : Option StoredBlock) :
    keepLink b old = { b with nextHash := (keepLink b old).nextHash } := by
  unfold keepLink
  split
  · split <;> rfl
  · rfl

theorem keepLink_number (b : StoredBlock) (old : Option StoredBlock) :
    (keepLink b old).number = b.number := by
  rw [keepLink_eq]

/-- The archive after a block has been stored. -/
def put (a : Archive) (b : StoredBlock) : Archive where
  blocks n := if n = b.number then some (keepLink b (a.blocks n)) else a.relinked b n
  numbers h := if h = b.hash then some b.number else a.numbers h
  latest := if a.latest.getD 0 ≤ b.number then some b.number else a.latest
  numbered := by
    intro n c h
    split at h
    · rename_i hn
      cases h
      rw [keepLink_number, hn]
    · exact relinked_numbered h
  indexed := by
    intro h n hn
    split
    · rfl
    · split at hn
      · cases hn
        contradiction
      · exact relinked_isSome (a.indexed hn)

/-! ## Archives in maps -/

/-- A map that holds an archive under the keys of a chain. -/
structure On (a : Archive) (chain : ChainId) (m : ByteMap) : Prop where
  block (n : UInt64) : m.get? (Key.block chain n) = (a.blocks n).map StoredBlock.encode
  hash (h : String) : m.get? (Key.hash chain h) = (a.numbers h).map Bytes.ofWordBE
  latest : m.get? (Key.latest chain) = a.latest.map Bytes.ofWordBE
  fits {n : UInt64} {b : StoredBlock} : a.blocks n = some b → b.Fits

theorem empty_on (chain : ChainId) : empty.On chain .empty where
  block _ := rfl
  hash _ := rfl
  latest := rfl
  fits h := nomatch h

/-! ### Reads -/

section Reads

variable {a : Archive} {chain : ChainId} {m : ByteMap}

/-- A read answers what was written under its key. -/
theorem read_perform {α : Type} {key : Bytes} {write : α → Bytes}
    {decode : Bytes → Except StoreError α} {v : Option α} (hget : m.get? key = v.map write)
    (hdecode : ∀ w ∈ v, decode (write w) = .ok w) :
    (BlockStore.read ByteMap.backend key decode).perform m = (.ok v, m) := by
  have hlook : ((ByteMap.backend.get key).mapError StoreError.database).perform m
      = (.ok (v.map write), m) := by
    rw [← hget]
    rfl
  rw [BlockStore.read, perform_bind_ok hlook]
  cases v with
  | none => rfl
  | some w =>
    rw [Option.map_some]
    dsimp only
    rw [perform_bind, perform_ofExcept, hdecode w rfl]
    rfl

theorem numberOf_ofWordBE (n : UInt64) : BlockStore.numberOf (Bytes.ofWordBE n) = .ok n := by
  rw [BlockStore.numberOf, Bytes.toWordBE?_ofWordBE]

theorem decoded_encode {b : StoredBlock} (h : b.Fits) :
    decoded (StoredBlock.decode b.encode) = .ok b := by
  have hread := StoredBlock.decode_encode h []
  rw [List.append_nil] at hread
  rw [decoded, hread]
  rfl

theorem readBlock_perform (h : a.On chain m) (n : UInt64) :
    (readBlock ByteMap.backend chain n).perform m = (.ok (a.blocks n), m) :=
  read_perform (h.block n) fun _ hb => decoded_encode (h.fits hb)

theorem readNumber_perform (h : a.On chain m) (hash : String) :
    (readNumber ByteMap.backend chain hash).perform m = (.ok (a.numbers hash), m) :=
  read_perform (h.hash hash) fun n _ => numberOf_ofWordBE n

theorem readLatest_perform (h : a.On chain m) :
    (readLatest ByteMap.backend chain).perform m = (.ok (a.latest.getD 0), m) := by
  rw [readLatest, perform_bind_ok (read_perform h.latest fun n _ => numberOf_ofWordBE n)]
  rfl

/-! ### Writes -/

/-- The entry that links the predecessor of a block to it. -/
def linkOf (a : Archive) (chain : ChainId) (b : StoredBlock) : List (Bytes × Bytes) :=
  ((a.predecessor? b).map fun p =>
    (Key.block chain p.number, { p with nextHash := some b.hash }.encode)).toList

theorem linkEntry_perform (h : a.On chain m) {b : StoredBlock} (hb : b.chain = chain) :
    (linkEntry ByteMap.backend b).perform m = (.ok (a.linkOf chain b), m) := by
  subst hb
  rw [linkEntry, linkOf, predecessor?]
  split
  · rfl
  · rw [perform_bind_ok (readNumber_perform h _)]
    cases hn : a.numbers b.previousHash with
    | none => rfl
    | some n =>
      dsimp only
      rw [perform_bind_ok (readBlock_perform h n), Option.bind_some]
      obtain ⟨p, hp⟩ := Option.isSome_iff_exists.1 (a.indexed hn)
      rw [hp]
      dsimp only
      cases hnext : p.nextHash <;> simp [Option.filter, hnext]

theorem latestEntry_perform (h : a.On chain m) {b : StoredBlock} (hb : b.chain = chain) :
    (latestEntry ByteMap.backend b).perform m
      = (.ok (if a.latest.getD 0 ≤ b.number then
          [(Key.latest chain, Bytes.ofWordBE b.number)] else []), m) := by
  subst hb
  rw [latestEntry, perform_bind_ok (readLatest_perform h)]
  rfl

/-- The entries that storing a block puts into the map. -/
def writes (a : Archive) (chain : ChainId) (b : StoredBlock) : List (Bytes × Bytes) :=
  a.linkOf chain b ++ (Key.hash chain b.hash, Bytes.ofWordBE b.number) ::
    (if a.latest.getD 0 ≤ b.number then [(Key.latest chain, Bytes.ofWordBE b.number)] else []) ++
    [(Key.block chain b.number, (keepLink b (a.blocks b.number)).encode)]

theorem writeBlock_perform (h : a.On chain m) {b : StoredBlock} (hb : b.chain = chain) :
    (writeBlock ByteMap.backend b).perform m = (.ok (), m.insertAll (a.writes chain b)) := by
  have hkept := keepLink_eq b (a.blocks b.number)
  have hchain : (keepLink b (a.blocks b.number)).chain = chain := by rw [hkept, hb]
  have hread := readBlock_perform h b.number
  rw [← hb] at hread
  rw [writeBlock, perform_bind_ok hread]
  dsimp only
  rw [perform_bind_ok (linkEntry_perform h hchain), perform_bind_ok (latestEntry_perform h hchain),
    hchain, writes]
  -- The link does not depend on what the block itself keeps.
  have hlink : a.linkOf chain (keepLink b (a.blocks b.number)) = a.linkOf chain b := by
    rw [hkept]
    rfl
  rw [hlink, keepLink_number]
  rw [hkept]
  rfl

theorem predecessor_stored {b p : StoredBlock} (hp : a.predecessor? b = some p) :
    a.blocks p.number = some p := by
  unfold predecessor? at hp
  split at hp
  · cases hp
  · obtain ⟨n, -, hn⟩ := Option.bind_eq_some_iff.1 (Option.filter_eq_some_iff.1 hp).1
    rw [a.numbered hn]
    exact hn

theorem relinked_fits (h : a.On chain m) {b c : StoredBlock} (hb : b.Fits) {n : UInt64}
    (hc : a.relinked b n = some c) : c.Fits := by
  unfold relinked at hc
  split at hc
  · rename_i p hp
    split at hc
    · cases hc
      have hfits := h.fits (predecessor_stored hp)
      exact { hfits with nextHash := by rintro _ ⟨⟩; exact hb.hash }
    · exact h.fits hc
  · exact h.fits hc

theorem keepLink_fits {b : StoredBlock} (hb : b.Fits) {old : Option StoredBlock}
    (hold : ∀ c ∈ old, c.Fits) : (keepLink b old).Fits := by
  unfold keepLink
  split
  · rename_i c
    split
    · exact { hb with nextHash := (hold c rfl).nextHash }
    · exact hb
  · exact hb

/-- Storing a block takes the map from its archive to the one with the block put
into it. -/
theorem put_on (h : a.On chain m) {b : StoredBlock} (hb : b.Fits) :
    (a.put b).On chain (m.insertAll (a.writes chain b)) where
  block n := by
    -- The link is written first and the block last, so the block wins where both are
    -- of one number.
    rw [ByteMap.get?_insertAll, h.block]
    simp only [put, relinked, writes, linkOf, Key.block, Key.hash, Key.latest]
    -- Without a predecessor the number decides; with one, its number may be that of
    -- the block as well.
    cases hp : a.predecessor? b with
    | none =>
      by_cases hn : n = b.number <;> by_cases hl : a.latest.getD 0 ≤ b.number <;>
        simp [hn, hl, KeyKind.key_eq_key]
    | some p =>
      by_cases hnp : n = p.number
      · subst hnp
        by_cases hn : p.number = b.number <;> by_cases hl : a.latest.getD 0 ≤ b.number <;>
          simp [hn, hl, KeyKind.key_eq_key]
      · by_cases hn : n = b.number <;> by_cases hl : a.latest.getD 0 ≤ b.number <;>
          simp [hn, hnp, hl, KeyKind.key_eq_key]
  hash t := by
    rw [ByteMap.get?_insertAll, h.hash]
    simp only [put, writes, linkOf, Key.block, Key.hash, Key.latest]
    by_cases ht : t = b.hash <;> by_cases hl : a.latest.getD 0 ≤ b.number <;>
      cases a.predecessor? b <;> simp [ht, hl, KeyKind.key_eq_key]
  latest := by
    rw [ByteMap.get?_insertAll, h.latest]
    simp only [put, writes, linkOf, Key.block, Key.hash, Key.latest]
    by_cases hl : a.latest.getD 0 ≤ b.number <;> cases a.predecessor? b <;>
      simp [hl, KeyKind.key_eq_key]
  fits {n c} hc := by
    simp only [put] at hc
    split at hc
    · cases hc
      exact keepLink_fits hb fun c hc => h.fits hc
    · exact relinked_fits h hb hc

end Reads

end Archive

end RelayHub
