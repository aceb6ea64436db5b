/-
Keys of blocks are ordered and told apart.

Within one chain everything before the number is the same, so keys of blocks
stand in a dictionary as the bytes of their numbers do, and those as the numbers
themselves. Between chains the number comes last and has a fixed length, so what
stands before it is the name, whatever characters the name has.
-/
import RelayHub.Proofs.Bytes
import RelayHub.Proofs.Store.Key

set_option autoImplicit false

namespace RelayHub

/-- Keys of one kind and chain are ordered as their suffixes. -/
theorem KeyKind.before_key (k : KeyKind) (chain : ChainId) (suffix suffix' : Bytes) :
    Bytes.before (k.key chain suffix) (k.key chain suffix') = Bytes.before suffix suffix' :=
  Bytes.before_append_left _ _ _

namespace Key

/-- A key of a block belongs to one chain and one number. -/
theorem block_inj {chain chain' : ChainId} {n n' : UInt64} :
    block chain n = block chain' n' ↔ chain = chain' ∧ n = n' := by
  constructor
  · intro h
    obtain rfl : chain = chain' := Decidable.byContradiction fun hne => block_ne hne n n' h
    have hsuffix := (KeyKind.key_eq_key.1 h).2
    exact ⟨rfl, Bytes.ofWordBE_injective hsuffix⟩
  · rintro ⟨rfl, rfl⟩
    rfl

/-- The keys of the blocks of a chain stand in a dictionary in the order of the
numbers of the blocks, and no two blocks, of one chain or of two whose names may
hold any characters, have one key. -/
theorem blocks_in_order_and_apart :
    (∀ (chain : ChainId) (m n : UInt64),
      List.Lex (· < ·) (block chain m) (block chain n) ↔ m < n) ∧
    ∀ (chain chain' : ChainId) (m n : UInt64),
      block chain m = block chain' n ↔ chain = chain' ∧ m = n := by
  constructor
  · intro chain m n
    rw [← Bytes.before_iff_lex, block, block, KeyKind.before_key, Bytes.before_ofWordBE]
  · intro chain chain' m n
    exact block_inj

end Key

end RelayHub
