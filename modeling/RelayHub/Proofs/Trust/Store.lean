/-
What a trust store signs and accepts, by the keys that it holds.

A store that holds the secret of a chain signs for it, and any store that knows
the chain, with the secret or without, accepts the signature. That the scheme
behind a key does its part is `ChainKey.Signs`; everything else is the store's.
-/
import RelayHub.Trust.Store

set_option autoImplicit false

namespace RelayHub

open Crypto

variable {suite : Suite}

/-! ## Keys -/

namespace ChainKey

/-- A key that signs whatever there is to sign, with signatures that its public
point accepts. -/
def Signs (suite : Suite) (k : ChainKey) : Prop :=
  ∀ chain digest, digest ≠ [] →
    ∃ signature, k.sign suite chain digest = .ok signature ∧
      (k.toPublic suite).verify suite signature digest = .ok true

/-- Accepting takes no secret. -/
theorem verify_toPublic (k : ChainKey) (signature digest : Bytes) :
    (k.toPublic suite).verify suite signature digest = k.verify suite signature digest := rfl

theorem length_of_verify {k : ChainKey} {signature digest : Bytes} {fits : Bool}
    (h : k.verify suite signature digest = .ok fits) : signature.length = signatureLength := by
  unfold verify at h
  split at h
  · cases h
  · exact Decidable.not_not.1 ‹_›

end ChainKey

/-! ## Stores -/

namespace TrustStore

/-- A store that has the key of a chain, with its secret or without. -/
def Knows (suite : Suite) (t : TrustStore) (chain : ChainId) (k : ChainKey) : Prop :=
  t.key? chain = some k ∨ t.key? chain = some (k.toPublic suite)

variable {t : TrustStore} {chain : ChainId} {k : ChainKey} {digest : Bytes}

/-- A store accepts for a chain what the chain's key accepts. -/
theorem verify_of_knows (h : t.Knows suite chain k) {signature : Bytes} (hdigest : digest ≠ [])
    (hfits : k.verify suite signature digest = .ok true) :
    t.verify suite chain signature digest = .ok true := by
  have hsignature : signature ≠ [] := by
    rintro rfl
    cases ChainKey.length_of_verify hfits
  rw [verify, if_neg (by simpa using hsignature), if_neg (by simpa using hdigest)]
  rcases h with h | h
  · rw [h]
    exact hfits
  · rw [h]
    exact hfits

/-- A store signs for a chain whose secret it has. -/
theorem sign_of_key (h : t.key? chain = some k) (hsigns : k.Signs suite) (hdigest : digest ≠ []) :
    ∃ signature, t.sign suite chain digest = .ok signature ∧
      k.verify suite signature digest = .ok true := by
  obtain ⟨signature, hsign, hfits⟩ := hsigns chain digest hdigest
  refine ⟨signature, ?_, hfits⟩
  rw [sign, if_neg (by simpa using hdigest), h]
  exact hsign

end TrustStore

/-! ### Two chains

The examples of the theorems about hubs have these two chains. One signs with
SM2 and one with ECDSA. -/

namespace Pair

/-- The chain that asks. -/
def chainA : ChainId := ⟨"A"⟩

/-- The chain that is asked. -/
def chainB : ChainId := ⟨"B"⟩

/-- The key of the chain that asks. -/
def keyA : ChainKey :=
  .signing .sm2 0x0101010101010101010101010101010101010101010101010101010101010101

/-- The key of the chain that is asked. -/
def keyB : ChainKey :=
  .signing .ecdsa 0x0b0b0b0b0b0b0b0b0b0b0b0b0b0b0b0b0b0b0b0b0b0b0b0b0b0b0b0b0b0b0b0c

/-- The trust store of the hub of the chain that asks. -/
def trustA (suite : Suite) : TrustStore :=
  ⟨[(chainA, keyA), (chainB, keyB.toPublic suite)]⟩

/-- The trust store of the hub of the chain that is asked. -/
def trustB (suite : Suite) : TrustStore :=
  ⟨[(chainA, keyA.toPublic suite), (chainB, keyB)]⟩

end Pair

end RelayHub
