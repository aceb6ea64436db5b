/-
Why signing, verifying or loading a key fails.
-/
import RelayHub.Message.Contract

set_option autoImplicit false

namespace RelayHub

/-- A failure of the trust store or of a key. -/
inductive CryptoError where
  | emptyDigest
  | emptySignature
  | signatureLength (expected actual : Nat)
  | malformedSignature (message : String)
  | badPublicKey
  | badPrivateKey
  | missingPrivateKey (chain : ChainId)
  | missingPublicKey (chain : ChainId)
  | duplicateChain (chain : ChainId)
  | keyMaterial (message : String)
  | signingFailed (message : String)
deriving DecidableEq, Repr

namespace CryptoError

/-- The sentence for a failure. -/
def message : CryptoError → String
  | emptyDigest => "Invalid digest: cannot be empty"
  | emptySignature => "Invalid signature: cannot be empty"
  | signatureLength expected actual =>
    "Invalid signature format: expected " ++ toString expected ++ " bytes, got " ++ toString actual
  | malformedSignature m => "Malformed signature: " ++ m
  | badPublicKey => "Invalid public key"
  | badPrivateKey => "Invalid private key"
  | missingPrivateKey chain => "No private key registered for chain " ++ chain.name
  | missingPublicKey chain => "No public key registered for chain " ++ chain.name
  | duplicateChain chain => "Chain " ++ chain.name ++ " already has key material"
  | keyMaterial m => "Key material error: " ++ m
  | signingFailed m => "Signing failed: " ++ m

end CryptoError

end RelayHub
