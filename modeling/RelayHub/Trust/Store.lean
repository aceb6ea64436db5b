/-
The trust store: which key belongs to which chain.

A chain keeps the first key given to it. Signing needs a secret key and a
digest that is not empty; verifying needs any key, and a signature and a
digest that are not empty. The hub knows the trust store only through these
two operations.
-/
import RelayHub.Trust.Key

set_option autoImplicit false

namespace RelayHub

/-! ## Signing and verifying for chains -/

/-- What the hub asks of a trust store. -/
structure Signatures where
  sign : ChainId → Bytes → Except CryptoError Bytes
  verify : ChainId → (signature digest : Bytes) → Except CryptoError Bool

/-! ## The store -/

/-- The keys of the chains, in the order they were given. -/
structure TrustStore where
  keys : List (ChainId × ChainKey)
deriving DecidableEq, Repr

namespace TrustStore

/-- No keys. -/
def empty : TrustStore := ⟨[]⟩

/-- The key of a chain. -/
def key? (t : TrustStore) (chain : ChainId) : Option ChainKey :=
  t.keys.lookup chain

/-- Gives a key to each of some chains, up to the first that has one already.
The store is answered even then: the chains before it keep the key. -/
def insert (t : TrustStore) (chains : List ChainId) (key : ChainKey) :
    Except CryptoError Unit × TrustStore :=
  match chains with
  | [] => (.ok (), t)
  | chain :: rest =>
    if (t.key? chain).isSome then (.error (.duplicateChain chain), t)
    else insert ⟨t.keys ++ [(chain, key)]⟩ rest key

/-- Signs a digest for a chain. -/
def sign (suite : Suite) (t : TrustStore) (chain : ChainId) (digest : Bytes) :
    Except CryptoError Bytes :=
  if digest.isEmpty then .error .emptyDigest
  else
    match t.key? chain with
    | none => .error (.missingPrivateKey chain)
    | some key => key.sign suite chain digest

/-- Checks a signature of a chain. -/
def verify (suite : Suite) (t : TrustStore) (chain : ChainId) (signature digest : Bytes) :
    Except CryptoError Bool :=
  if signature.isEmpty then .error .emptySignature
  else if digest.isEmpty then .error .emptyDigest
  else
    match t.key? chain with
    | none => .error (.missingPublicKey chain)
    | some key => key.verify suite signature digest

/-- Whether a chain can sign. -/
def canSign (t : TrustStore) (chain : ChainId) : Bool :=
  (t.key? chain).any ChainKey.canSign

/-- The two operations that the hub asks for. -/
def signatures (suite : Suite) (t : TrustStore) : Signatures where
  sign := t.sign suite
  verify := t.verify suite

end TrustStore

end RelayHub
