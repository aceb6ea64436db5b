/-
What a trust store signs, and what it does not.

A store accepts what it has signed. It does not sign for three reasons: there is
nothing to be signed, the chain has no secret in the store, or the scheme has no
signature to give. SM2 has none for one secret, the order less one, whatever is to
be signed. That secret is loaded like any other.
-/
import RelayHub.Proofs.Trust.Binding

set_option autoImplicit false

namespace RelayHub

open Crypto

/-! ## Stores -/

namespace TrustStore

variable {suite : Suite} {t : TrustStore} {chain : ChainId} {digest signature : Bytes}
  {e : CryptoError}

/-- A store accepts what it has signed. -/
theorem verify_of_sign (hsuite : suite.Sound) (h : t.sign suite chain digest = .ok signature) :
    t.verify suite chain signature digest = .ok true := by
  obtain ⟨hdigest, a, secret, hkey, hmade⟩ := of_sign h
  obtain ⟨hlength, haccepted⟩ := hsuite.accepted hmade
  apply verify_of_knows (.inl hkey) hdigest
  rw [ChainKey.verify, if_neg (not_not_intro hlength)]
  dsimp only [ChainKey.algorithm, ChainKey.point]
  rw [haccepted]

/-- Why a store does not sign a digest for a chain. -/
inductive Unsigned (suite : Suite) (t : TrustStore) (chain : ChainId) (digest : Bytes) :
    CryptoError → Prop where
  | empty (hdigest : digest = []) : Unsigned suite t chain digest .emptyDigest
  | unable (hdigest : digest ≠ []) (hkey : t.canSign chain = false) :
      Unsigned suite t chain digest (.missingPrivateKey chain)
  | failed (hdigest : digest ≠ []) (a : SignatureAlgorithm) (secret : Nat)
      (hkey : t.key? chain = some (.signing a secret))
      (hfails : (suite a).sign secret digest = none) :
      Unsigned suite t chain digest (.signingFailed ChainKey.schemeFailure)

/-- A store that does not sign has one of these reasons, and says which. -/
theorem sign_error_iff : t.sign suite chain digest = .error e ↔ t.Unsigned suite chain digest e := by
  constructor
  · intro h
    rw [sign] at h
    split at h
    · cases h
      exact .empty (List.isEmpty_iff.1 ‹_›)
    · rename_i hdigest
      rw [List.isEmpty_iff] at hdigest
      cases hkey : t.key? chain with
      | none =>
        rw [hkey] at h
        cases h
        exact .unable hdigest (by rw [canSign, hkey]; rfl)
      | some k =>
        rw [hkey] at h
        cases k with
        | verifying a point =>
          cases h
          exact .unable hdigest (by rw [canSign, hkey]; rfl)
        | signing a secret =>
          dsimp only [ChainKey.sign] at h
          cases hsign : (suite a).sign secret digest with
          | none =>
            rw [hsign] at h
            cases h
            exact .failed hdigest a secret hkey hsign
          | some signature =>
            rw [hsign] at h
            cases h
  · intro h
    cases h with
    | empty hdigest => rw [sign, if_pos (List.isEmpty_iff.2 hdigest)]
    | unable hdigest hkey =>
      rw [sign, if_neg (by simpa using hdigest)]
      rw [canSign] at hkey
      rcases hlook : t.key? chain with _ | (_ | _)
      · rfl
      · rw [hlook] at hkey
        cases hkey
      · rfl
    | failed hdigest a secret hkey hfails =>
      rw [sign, if_neg (by simpa using hdigest), hkey]
      dsimp only [ChainKey.sign]
      rw [hfails]

/-- A key that signs whatever there is to sign leaves nothing unsigned. -/
theorem not_unsigned_of_signs {k : ChainKey} (hkey : t.key? chain = some k)
    (hsigns : k.Signs suite) (hdigest : digest ≠ []) : ¬ t.Unsigned suite chain digest e := by
  intro h
  obtain ⟨signature, hsign, -⟩ := sign_of_key hkey hsigns hdigest
  rw [sign_error_iff.2 h] at hsign
  cases hsign

end TrustStore

/-! ## A secret that signs nothing -/

namespace Crypto.Sm2

/-- A secret that is one less than a multiple of the order signs nothing. -/
theorem sign_eq_none {c : Curve} {secret : Nat} (h : (secret + 1) % c.n = 0) (message : Bytes) :
    sign c secret message = none := by
  apply Option.bind_eq_none_iff.2
  intro k hk
  apply Option.bind_eq_none_iff.2
  intro pt hpt
  exact if_pos (.inr (.inr h))

/-- The greatest secret of the curve of SM2. -/
def lastSecret : Nat :=
  sm2Curve.n - 1

end Crypto.Sm2

namespace ChainKey

/-- The greatest secret is loaded like any other. -/
theorem ofSecret_last :
    ofSecret .standard .sm2 (Bytes.ofNat 32 Sm2.lastSecret) = .ok (.signing .sm2 Sm2.lastSecret) := by
  have hsecret : (Suite.standard .sm2).secret? (Bytes.ofNat 32 Sm2.lastSecret)
      = some Sm2.lastSecret := by
    decide +kernel
  rw [ofSecret, hsecret]

end ChainKey

/-- Nothing is signed with it. -/
theorem TrustStore.sign_last {t : TrustStore} {chain : ChainId} {digest : Bytes}
    (hkey : t.key? chain = some (.signing .sm2 Sm2.lastSecret)) (hdigest : digest ≠ []) :
    t.sign .standard chain digest = .error (.signingFailed ChainKey.schemeFailure) := by
  have hnone : (Suite.standard .sm2).sign Sm2.lastSecret digest = none :=
    Sm2.sign_eq_none (by decide) digest
  exact sign_error_iff.2 (.failed hdigest .sm2 Sm2.lastSecret hkey hnone)

end RelayHub
