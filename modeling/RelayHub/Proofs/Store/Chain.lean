/-
A store that holds the first blocks of a chain.

Blocks of a chain are numbered from one, have hashes of their own, and name the
hash of the block before. The archive of such a list of blocks holds each of
them under its number, linked to the next. Storing the next block takes it to
the archive of the list with that block, so a store that is given the blocks in
order holds, at every moment, the archive of the blocks it was given.
-/
import Mathlib.Data.List.Nodup
import RelayHub.Proofs.Store.Archive

set_option autoImplicit false

namespace RelayHub

open BlockStore

/-! ## Linked blocks -/

/-- Blocks in order: numbered from one, with hashes that are all different and
not empty, each naming the hash of the one before. -/
structure Linked (bs : List RawBlock) : Prop where
  number {i : Nat} {b : RawBlock} : bs[i]? = some b → b.number.toNat = i + 1
  hashed {b : RawBlock} : b ∈ bs → b.hash ≠ ""
  distinct : (bs.map RawBlock.hash).Nodup
  linked {i : Nat} {b c : RawBlock} : bs[i]? = some b → bs[i + 1]? = some c →
    c.previousHash = b.hash

namespace Linked

variable {bs cs : List RawBlock}

theorem of_isPrefix (h : Linked cs) (hp : bs <+: cs) : Linked bs := by
  have hat : ∀ {i b}, bs[i]? = some b → cs[i]? = some b := fun {i b} hb => by
    obtain ⟨hi, rfl⟩ := List.getElem?_eq_some_iff.1 hb
    exact List.prefix_iff_getElem?.1 hp i hi
  exact {
    number := fun hb => h.number (hat hb)
    hashed := fun hb => h.hashed (hp.subset hb)
    distinct := h.distinct.sublist (hp.sublist.map _)
    linked := fun hb hc => h.linked (hat hb) (hat hc) }

/-- Blocks with one hash are one block. -/
theorem eq_of_hash_eq (h : Linked bs) {b c : RawBlock} (hb : b ∈ bs) (hc : c ∈ bs)
    (heq : b.hash = c.hash) : b = c :=
  List.inj_on_of_nodup_map h.distinct hb hc heq

theorem find?_hash (h : Linked bs) {b : RawBlock} (hb : b ∈ bs) :
    bs.find? (fun c => c.hash = b.hash) = some b := by
  cases hf : bs.find? (fun c => c.hash = b.hash) with
  | none => simpa using List.find?_eq_none.1 hf b hb
  | some c =>
    have hhash : c.hash = b.hash := by simpa using List.find?_some hf
    rw [h.eq_of_hash_eq (List.mem_of_find?_eq_some hf) hb hhash]

/-- A block stands where its number says. -/
theorem get_number (h : Linked bs) {b : RawBlock} (hb : b ∈ bs) :
    b.number ≠ 0 ∧ bs[b.number.toNat - 1]? = some b := by
  obtain ⟨i, hi⟩ := List.mem_iff_getElem?.1 hb
  have hn := h.number hi
  refine ⟨fun hz => ?_, by rw [hn]; exact hi⟩
  rw [hz] at hn
  cases hn

/-- The hash of a block that comes next is new. -/
theorem find?_next {b : RawBlock} (h : Linked (bs ++ [b])) :
    bs.find? (fun c => c.hash = b.hash) = none := by
  refine List.find?_eq_none.2 fun c hc heq => ?_
  have hnew := h.distinct
  rw [List.map_append, List.nodup_append] at hnew
  exact hnew.2.2 c.hash (List.mem_map_of_mem hc) b.hash (by simp) (by simpa using heq)

end Linked

/-! ## What is stored of them -/

/-- What is stored of a block in a list: the block, linked to the next one if
there is one. -/
def storedAt (chain : ChainId) (bs : List RawBlock) (i : Nat) : Option StoredBlock :=
  bs[i]?.map fun b =>
    { StoredBlock.ofRaw chain b with nextHash := bs[i + 1]?.map RawBlock.hash }

/-- The archive that holds the blocks of a list under their numbers. -/
def Archive.ofBlocks (chain : ChainId) (bs : List RawBlock) (h : Linked bs) : Archive where
  blocks n := if n = 0 then none else storedAt chain bs (n.toNat - 1)
  numbers t := (bs.find? fun b => b.hash = t).map RawBlock.number
  latest := bs.getLast?.map RawBlock.number
  numbered {n c} hc := by
    split at hc
    · cases hc
    · rename_i hn
      obtain ⟨b, hb, rfl⟩ := Option.map_eq_some_iff.1 hc
      have hnumber := h.number hb
      have hpos : n.toNat ≠ 0 := fun hz => hn (UInt64.toNat_inj.1 hz)
      exact UInt64.toNat_inj.1 (by rw [StoredBlock.ofRaw, hnumber]; omega)
  indexed {t n} hn := by
    obtain ⟨b, hb, rfl⟩ := Option.map_eq_some_iff.1 hn
    obtain ⟨hpos, hat⟩ := h.get_number (List.mem_of_find?_eq_some hb)
    rw [if_neg hpos, storedAt, hat]
    rfl

namespace Archive

variable {chain : ChainId} {bs : List RawBlock}

theorem ofBlocks_nil (h : Linked []) : ofBlocks chain [] h = empty :=
  Archive.ext (by funext n; simp [ofBlocks, storedAt, empty]) rfl rfl

/-- The number of the last block of a list, or zero, is how many there are. -/
theorem ofBlocks_latest (h : Linked bs) :
    ((ofBlocks chain bs h).latest.getD 0).toNat = bs.length := by
  rcases List.eq_nil_or_concat bs with rfl | ⟨cs, b, rfl⟩
  · rfl
  · have hnumber : b.number.toNat = cs.length + 1 := h.number (by simp)
    simp [ofBlocks, hnumber]

theorem storedAt_append_of_lt {cs : List RawBlock} {i : Nat} (h : i + 1 < bs.length) :
    storedAt chain (bs ++ cs) i = storedAt chain bs i := by
  rw [storedAt, storedAt, List.getElem?_append_left h,
    List.getElem?_append_left (Nat.lt_of_succ_lt h)]

theorem storedAt_of_le {i : Nat} (h : bs.length ≤ i) : storedAt chain bs i = none := by
  rw [storedAt, List.getElem?_eq_none h]
  rfl

theorem storedAt_last (b : RawBlock) :
    storedAt chain (bs ++ [b]) bs.length = some (.ofRaw chain b) := by
  simp [storedAt, StoredBlock.ofRaw]

theorem storedAt_last_but_one (a b : RawBlock) :
    storedAt chain (bs ++ [a] ++ [b]) bs.length
      = some { StoredBlock.ofRaw chain a with nextHash := some b.hash } := by
  simp [storedAt]

/-- The predecessor of the next block is the last one. -/
theorem ofBlocks_predecessor {a b : RawBlock} (h : Linked (bs ++ [a]))
    (hnext : Linked (bs ++ [a] ++ [b])) :
    (ofBlocks chain (bs ++ [a]) h).predecessor? (.ofRaw chain b) = some (.ofRaw chain a) := by
  have hlast : a ∈ bs ++ [a] := List.mem_append_cons_self
  -- The predecessor is found by its hash, which names its number, which names the block.
  have hprev : b.previousHash = a.hash := by
    have hat : (bs ++ [a] ++ [b])[bs.length]? = some a := by simp
    have hafter : (bs ++ [a] ++ [b])[bs.length + 1]? = some b := by simp
    exact hnext.linked hat hafter
  have hnumber : a.number.toNat - 1 = bs.length := by
    have hat : (bs ++ [a])[bs.length]? = some a := by simp
    rw [h.number hat]
    omega
  have hfilled : ¬ (StoredBlock.ofRaw chain b).previousHash.isEmpty = true := by
    simpa [StoredBlock.ofRaw, hprev] using h.hashed hlast
  have hfound : (ofBlocks chain (bs ++ [a]) h).numbers (StoredBlock.ofRaw chain b).previousHash
      = some a.number := by
    simp only [ofBlocks, StoredBlock.ofRaw, hprev, h.find?_hash hlast, Option.map_some]
  have hblock : (ofBlocks chain (bs ++ [a]) h).blocks a.number = some (.ofRaw chain a) := by
    simp only [ofBlocks, (h.get_number hlast).1, hnumber, storedAt_last, if_false]
  rw [predecessor?, if_neg hfilled, hfound, Option.bind_some, hblock]
  rfl

/-- What the next block changes under other numbers: the last block is linked to
it. -/
theorem ofBlocks_relinked {b : RawBlock} (h : Linked bs) (hnext : Linked (bs ++ [b])) {n : UInt64}
    (hn : n ≠ b.number) :
    (ofBlocks chain bs h).relinked (.ofRaw chain b) n
      = (ofBlocks chain (bs ++ [b]) hnext).blocks n := by
  have hnumber : b.number.toNat = bs.length + 1 := by
    have hat : (bs ++ [b])[bs.length]? = some b := by simp
    exact hnext.number hat
  have hother : n.toNat ≠ bs.length + 1 := fun heq => hn (UInt64.toNat_inj.1 (heq.trans hnumber.symm))
  -- The first block has no predecessor, and any other has the last one of the list.
  rcases List.eq_nil_or_concat' bs with rfl | ⟨cs, a, rfl⟩
  · have hnone : (ofBlocks chain [b] hnext).blocks n = none := by
      by_cases hpos : n = 0
      · exact if_pos hpos
      · have hpos' : n.toNat ≠ 0 := fun hz => hpos (UInt64.toNat_inj.1 hz)
        refine (if_neg hpos).trans (storedAt_of_le ?_)
        simp only [List.length_nil] at hother
        simp only [List.length_singleton]
        omega
    refine Eq.trans ?_ hnone.symm
    rw [ofBlocks_nil]
    simp [relinked, predecessor?, empty]
  · have hat : (cs ++ [a])[cs.length]? = some a := by simp
    have hlast : a.number.toNat = cs.length + 1 := h.number hat
    rw [relinked, ofBlocks_predecessor h hnext]
    dsimp only
    split
    · rename_i hna
      have hpos : n ≠ 0 := hna ▸ (h.get_number List.mem_append_cons_self).1
      refine Eq.symm ((if_neg hpos).trans ?_)
      rw [show n = a.number from hna, hlast, Nat.add_sub_cancel, storedAt_last_but_one]
      rfl
    · rename_i hna
      by_cases hpos : n = 0
      · exact (if_pos hpos).trans (if_pos hpos).symm
      · have hpos' : n.toNat ≠ 0 := fun hz => hpos (UInt64.toNat_inj.1 hz)
        have hne : n.toNat ≠ cs.length + 1 := fun heq =>
          hna (UInt64.toNat_inj.1 (heq.trans hlast.symm))
        refine (if_neg hpos).trans (Eq.trans ?_ (if_neg hpos).symm)
        rw [List.length_append, List.length_singleton] at hother
        -- Before the last block both have the same, and behind it neither has any.
        by_cases hlt : n.toNat - 1 < cs.length
        · exact (storedAt_append_of_lt (by simpa using hlt)).symm
        · rw [storedAt_of_le (by simp; omega), storedAt_of_le (by simp; omega)]

/-- Storing the next block of a list takes its archive to that of the longer
list. -/
theorem ofBlocks_put {b : RawBlock} (h : Linked bs) (hnext : Linked (bs ++ [b])) :
    (ofBlocks chain bs h).put (.ofRaw chain b) = ofBlocks chain (bs ++ [b]) hnext := by
  have hat : (bs ++ [b])[bs.length]? = some b := by simp
  have hnumber : b.number.toNat = bs.length + 1 := hnext.number hat
  refine Archive.ext ?_ ?_ ?_
  · funext n
    -- There was no block of that number to keep a link from.
    by_cases hn : n = b.number
    · subst hn
      have hpos : b.number ≠ 0 := (hnext.get_number List.mem_append_cons_self).1
      have hfree : (ofBlocks chain bs h).blocks b.number = none :=
        (if_neg hpos).trans (storedAt_of_le (by omega))
      refine (if_pos rfl).trans (Eq.trans ?_ (if_neg hpos).symm)
      rw [hfree, hnumber, Nat.add_sub_cancel, storedAt_last]
      rfl
    · exact (if_neg hn).trans (ofBlocks_relinked h hnext hn)
  · funext t
    simp only [put, ofBlocks, StoredBlock.ofRaw, List.find?_append]
    by_cases ht : t = b.hash
    · simp [ht, hnext.find?_next]
    · have hne : ¬ b.hash = t := fun e => ht e.symm
      simp [ht, hne]
  · have hle : (ofBlocks chain bs h).latest.getD 0 ≤ b.number := by
      rw [UInt64.le_iff_toNat_le, ofBlocks_latest, hnumber]
      omega
    refine (if_pos hle).trans ?_
    simp [ofBlocks, StoredBlock.ofRaw]

end Archive

/-! ## What the store answers -/

/-- A store that holds the first blocks of a list, up to a number: each of them
is linked to the next but for the last, and there are no others. -/
structure HoldsPrefix (chain : ChainId) (bs : List RawBlock) (m : ByteMap) (top : UInt64) :
    Prop where
  bound : top.toNat ≤ bs.length
  latest : ((inMemory chain).latest chain).perform m = (.ok top, m)
  linked {i : Nat} {b c : RawBlock} : bs[i]? = some b → bs[i + 1]? = some c →
    i + 1 < top.toNat → ((inMemory chain).byNumber chain b.number).perform m
      = (.ok (some { StoredBlock.ofRaw chain b with nextHash := some c.hash }), m)
  last {i : Nat} {b : RawBlock} : bs[i]? = some b → i + 1 = top.toNat →
    ((inMemory chain).byNumber chain b.number).perform m = (.ok (some (.ofRaw chain b)), m)
  others {n : UInt64} : n = 0 ∨ top < n →
    ((inMemory chain).byNumber chain n).perform m = (.ok none, m)

theorem Archive.ofBlocks_blocks {chain : ChainId} {bs : List RawBlock} (h : Linked bs)
    {n : UInt64} {i : Nat} (hn : n.toNat = i + 1) :
    (ofBlocks chain bs h).blocks n = storedAt chain bs i := by
  have hpos : n ≠ 0 := by
    rintro rfl
    cases hn
  refine (if_neg hpos).trans ?_
  rw [hn, Nat.add_sub_cancel]

theorem holdsPrefix_of_on {chain : ChainId} {bs : List RawBlock} {m : ByteMap} {k : Nat}
    (h : Linked bs) (hk : k ≤ bs.length) (hfirst : Linked (bs.take k))
    (hon : (Archive.ofBlocks chain (bs.take k) hfirst).On chain m) :
    ∃ top : UInt64, top.toNat = k ∧ HoldsPrefix chain bs m top := by
  have hlatest : ((Archive.ofBlocks chain (bs.take k) hfirst).latest.getD 0).toNat = k := by
    rw [Archive.ofBlocks_latest, List.length_take_of_le hk]
  refine ⟨_, hlatest, {
    bound := hlatest.symm ▸ hk
    latest := Archive.readLatest_perform hon
    linked := fun {i b c} hb hc hi => ?_
    last := fun {i b} hb hi => ?_
    others := fun {n} hn => ?_ }⟩
  · refine (Archive.readBlock_perform hon _).trans ?_
    rw [hlatest] at hi
    rw [Archive.ofBlocks_blocks hfirst (h.number hb), storedAt, List.getElem?_take_of_lt hi,
      List.getElem?_take_of_lt (Nat.lt_of_succ_lt hi), hb, hc]
    rfl
  · refine (Archive.readBlock_perform hon _).trans ?_
    rw [hlatest] at hi
    rw [Archive.ofBlocks_blocks hfirst (h.number hb), storedAt,
      List.getElem?_take_of_lt (Nat.lt_of_succ_le (Nat.le_of_eq hi)), hb,
      List.getElem?_take_eq_none (Nat.le_of_eq hi.symm)]
    rfl
  · refine (Archive.readBlock_perform hon _).trans ?_
    by_cases hzero : n = 0
    · rw [hzero]
      rfl
    · have hpast : k < n.toNat := hlatest ▸ UInt64.lt_iff_toNat_lt.1 (hn.resolve_left hzero)
      obtain ⟨i, hi⟩ := Nat.exists_eq_succ_of_ne_zero (Nat.ne_zero_of_lt hpast)
      rw [Archive.ofBlocks_blocks hfirst hi, Archive.storedAt_of_le]
      rw [List.length_take_of_le hk]
      omega

end RelayHub
