/-
Nonces that are fixed by the key and the message.

A keyed digest is run as a generator: its state is a key and a value, each
stirred with the secret and the message. Values are drawn until one lies
between zero and the order of the curve.
-/
import RelayHub.Bytes

set_option autoImplicit false

namespace RelayHub.Crypto

/-- The keyed digest of a message, for a digest that works on blocks of 64
bytes. -/
def hmac (hash : Bytes → Bytes) (key message : Bytes) : Bytes :=
  let key := if key.length ≤ 64 then key else hash key
  let key := key ++ List.replicate (64 - key.length) 0
  hash (Bytes.mask key 0x5C ++ hash (Bytes.mask key 0x36 ++ message))

namespace Nonce

/-- The state of the generator. -/
structure State where
  key : Bytes
  value : Bytes

/-- Stirs `extra` into the state, after a mark. -/
def State.stir (hash : Bytes → Bytes) (s : State) (mark : UInt8) (extra : Bytes) : State :=
  let key := hmac hash s.key (s.value ++ mark :: extra)
  ⟨key, hmac hash key s.value⟩

/-- The state for a secret and a message, each as 32 bytes. -/
def init (hash : Bytes → Bytes) (secret message : Bytes) : State :=
  let zero : State := ⟨List.replicate 32 0, List.replicate 32 1⟩
  (zero.stir hash 0 (secret ++ message)).stir hash 1 (secret ++ message)

/-- Draws values until one lies between zero and `order`. For an order close
to `2 ^ 256` even a second draw is rare. -/
def draw (hash : Bytes → Bytes) (order : Nat) : (draws : Nat) → State → Option Nat
  | 0, _ => none
  | draws + 1, s =>
    let value := hmac hash s.key s.value
    let k := Bytes.toNat value
    if 0 < k ∧ k < order then some k
    else draw hash order draws (State.stir hash ⟨s.key, value⟩ 0 [])

end Nonce

/-- The nonce for a secret and a message digest, both below `order`. -/
def nonce? (hash : Bytes → Bytes) (order secret message : Nat) : Option Nat :=
  Nonce.draw hash order 128 (Nonce.init hash (Bytes.ofNat 32 secret) (Bytes.ofNat 32 message))

end RelayHub.Crypto
