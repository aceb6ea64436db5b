/-
Keys of different records are different.

Kinds are told apart by their first byte, and within one kind and chain
everything up to the suffix is the same, so the suffix decides. Chains are told
apart where suffixes have one length, as those of blocks and of greatest numbers
have. Hashes can have any length and any bytes, so what tells their chains apart
is that a name ends at the first zero byte: names that have no such byte.
-/
import RelayHub.Proofs.Text.Utf8
import RelayHub.Proofs.Word
import RelayHub.Store.Key

set_option autoImplicit false

namespace RelayHub

theorem ChainId.bytes_inj {a b : ChainId} : a.bytes = b.bytes ↔ a = b := by
  rw [bytes, bytes, Utf8.encode_inj, ChainId.mk.injEq]

/-- A key belongs to one kind. -/
theorem KeyKind.key_ne {k k' : KeyKind} (h : k ≠ k') (chain chain' : ChainId)
    (suffix suffix' : Bytes) : ¬ k.key chain suffix = k'.key chain' suffix' := by
  cases k <;> cases k' <;> first | exact absurd rfl h | simp [key, chainPart, mark]

theorem KeyKind.key_eq_key {k k' : KeyKind} {chain : ChainId} {suffix suffix' : Bytes} :
    k.key chain suffix = k'.key chain suffix' ↔ k = k' ∧ suffix = suffix' := by
  constructor
  · intro h
    have hkind : k = k' := Decidable.byContradiction fun hne => key_ne hne _ _ _ _ h
    subst hkind
    exact ⟨rfl, List.append_cancel_left h⟩
  · rintro ⟨rfl, rfl⟩
    rfl

/-- A key of one kind belongs to one chain, if the length of the suffix is
known. -/
theorem KeyKind.key_ne_of_chain {k : KeyKind} {chain chain' : ChainId} {suffix suffix' : Bytes}
    (hlength : suffix.length = suffix'.length) (hne : chain ≠ chain') :
    k.key chain suffix ≠ k.key chain' suffix' := by
  intro h
  obtain ⟨hpart, -⟩ := List.append_inj' h hlength
  have hname : chain.bytes = chain'.bytes := by
    rw [chainPart, chainPart] at hpart
    exact List.append_cancel_left (List.append_cancel_right hpart)
  exact hne (ChainId.bytes_inj.1 hname)

/-- A name without the byte that ends it in a key. -/
def ChainId.NulFree (chain : ChainId) : Prop :=
  0 ∉ chain.bytes

instance (chain : ChainId) : Decidable chain.NulFree :=
  inferInstanceAs (Decidable (0 ∉ chain.bytes))

/-- What stands before the first zero byte. -/
theorem takeWhile_nulFree {name : Bytes} (rest : Bytes) (h : 0 ∉ name) :
    (name ++ 0 :: rest).takeWhile (fun b => b != 0) = name := by
  rw [List.takeWhile_append_of_pos]
  · simp
  · intro b hb
    rw [bne_iff_ne]
    rintro rfl
    exact h hb

/-- A key belongs to one chain, if names have no zero byte. -/
theorem KeyKind.chain_eq_of_key_eq {k k' : KeyKind} {chain chain' : ChainId}
    {suffix suffix' : Bytes} (hchain : chain.NulFree) (hchain' : chain'.NulFree)
    (h : k.key chain suffix = k'.key chain' suffix') : chain = chain' := by
  have hkind : k = k' := Decidable.byContradiction fun hne => key_ne hne _ _ _ _ h
  subst hkind
  simp only [key, chainPart, List.append_assoc, List.append_cancel_left_eq,
    List.singleton_append] at h
  apply ChainId.bytes_inj.1
  rw [← takeWhile_nulFree suffix hchain, h, takeWhile_nulFree _ hchain']

theorem Key.block_ne {chain chain' : ChainId} (hne : chain ≠ chain') (n n' : UInt64) :
    block chain n ≠ block chain' n' :=
  KeyKind.key_ne_of_chain rfl hne

theorem Key.latest_ne {chain chain' : ChainId} (hne : chain ≠ chain') :
    latest chain ≠ latest chain' :=
  KeyKind.key_ne_of_chain rfl hne

/-! ## Keys of blocks -/

/-- A key of something that is kept of the blocks of a chain. -/
def Key.OfBlocks (chain : ChainId) (key : Bytes) : Prop :=
  ∃ k suffix, k ≠ KeyKind.transaction ∧ key = k.key chain suffix

theorem Key.ofBlocks_block (chain : ChainId) (n : UInt64) : OfBlocks chain (block chain n) :=
  ⟨.block, _, by decide, rfl⟩

theorem Key.ofBlocks_hash (chain : ChainId) (h : String) : OfBlocks chain (hash chain h) :=
  ⟨.blockByHash, _, by decide, rfl⟩

theorem Key.ofBlocks_latest (chain : ChainId) : OfBlocks chain (latest chain) :=
  ⟨.metadata, _, by decide, rfl⟩

theorem Key.not_ofBlocks_transaction {chain own : ChainId} {txHash : String} :
    ¬ OfBlocks chain (transaction own txHash) := by
  rintro ⟨k, suffix, hk, h⟩
  exact KeyKind.key_ne hk.symm _ _ _ _ h

theorem Key.chain_eq_of_ofBlocks {chain chain' : ChainId} {key : Bytes} (hchain : chain.NulFree)
    (hchain' : chain'.NulFree) (h : OfBlocks chain key) (h' : OfBlocks chain' key) :
    chain = chain' := by
  obtain ⟨k, suffix, -, rfl⟩ := h
  obtain ⟨k', suffix', -, h⟩ := h'
  exact KeyKind.chain_eq_of_key_eq hchain hchain' h

/-! ## Keys of transactions -/

theorem Key.transaction_inj {chain : ChainId} {t t' : String} :
    transaction chain t = transaction chain t' ↔ t = t' := by
  simp [transaction, KeyKind.key_eq_key]

end RelayHub
