/-
Signatures: ECDSA on the curve secp256k1, and SM2.

A signature is two numbers of 32 bytes each, neither zero nor as large as the
order of the curve. A scheme has the operations that key holders need, so that
everything above works with any scheme.
-/
import RelayHub.Crypto.Curve
import RelayHub.Crypto.Nonce
import RelayHub.Crypto.Sha256
import RelayHub.Crypto.Sm3
import RelayHub.Text.Utf8

set_option autoImplicit false

namespace RelayHub.Crypto

/-! ## Schemes -/

/-- The operations of a signature scheme. Signing may fail for some keys; a
verification answers `none` when 64 bytes are no signature at all. -/
structure Scheme where
  secret? : Bytes → Option Nat
  point? : Bytes → Option Point
  publicOf : Nat → Point
  sign : Nat → Bytes → Option Bytes
  verify : Point → Bytes → Bytes → Option Bool

/-- The length of a signature. -/
def signatureLength : Nat := 64

/-- The two numbers of a signature of 64 bytes. -/
def parts? (order : Nat) (signature : Bytes) : Option (Nat × Nat) :=
  let r := Bytes.toNat (signature.take 32)
  let s := Bytes.toNat (signature.drop 32)
  if 0 < r ∧ r < order ∧ 0 < s ∧ s < order then some (r, s) else none

/-- A signature of two numbers. -/
def joined (r s : Nat) : Bytes :=
  Bytes.ofNat 32 r ++ Bytes.ofNat 32 s

/-! ## ECDSA -/

/-- The curve secp256k1. -/
def secp256k1 : Curve where
  p := 0xFFFFFFFFFFFFFFFFFFFFFFFFFFFFFFFFFFFFFFFFFFFFFFFFFFFFFFFEFFFFFC2F
  a := 0
  b := 7
  n := 0xFFFFFFFFFFFFFFFFFFFFFFFFFFFFFFFEBAAEDCE6AF48A03BBFD25E8CD0364141
  gx := 0x79BE667EF9DCBBAC55A06295CE870B07029BFCDB2DCE28D959F2815B16F81798
  gy := 0x483ADA7726A3C4655DA4FBFC0E1108A8FD17B448A68554199C47D08FFB10D4B8
  prefers := .even

namespace Ecdsa

/-- Signs a message. Of the two second numbers that would do, the smaller is
taken. -/
def sign (c : Curve) (secret : Nat) (message : Bytes) : Option Bytes := do
  let z := Bytes.toNat (sha256 message) % c.n
  let k ← nonce? sha256 c.n secret z
  let pt ← c.affine? (c.mul k c.generator)
  let r := pt.x % c.n
  let s := invMod c.n k * (z + r * secret) % c.n
  if r = 0 ∨ s = 0 then none
  else some (joined r (min s (c.n - s)))

/-- Checks a signature. One with the larger second number is not accepted. -/
def verify (c : Curve) (key : Point) (message signature : Bytes) : Option Bool := do
  let (r, s) ← parts? c.n signature
  let z := Bytes.toNat (sha256 message) % c.n
  let w := invMod c.n s
  let sum := c.add (c.mul (z * w % c.n) c.generator) (c.mul (r * w % c.n) key)
  return match c.affine? sum with
  | some pt => s ≤ c.n / 2 && pt.x % c.n == r
  | none => false

/-- ECDSA on a curve. -/
def scheme (c : Curve) : Scheme where
  secret? := c.secret?
  point? := c.point?
  publicOf := c.publicPoint
  sign := sign c
  verify := verify c

end Ecdsa

/-! ## SM2 -/

/-- The curve of SM2. -/
def sm2Curve : Curve where
  p := 0xFFFFFFFEFFFFFFFFFFFFFFFFFFFFFFFFFFFFFFFF00000000FFFFFFFFFFFFFFFF
  a := 0xFFFFFFFEFFFFFFFFFFFFFFFFFFFFFFFFFFFFFFFF00000000FFFFFFFFFFFFFFFC
  b := 0x28E9FA9E9D9F5E344D5A9E4BCF6509A7F39789F515AB8F92DDBCBD414D940E93
  n := 0xFFFFFFFEFFFFFFFFFFFFFFFFFFFFFFFF7203DF6B21C6052B53BBF40939D54123
  gx := 0x32C4AE2C1F1981195F9904466A39C9948FE30BBFF2660BE1715A4589334C74C7
  gy := 0xBC3736A2F4F6779C59BDCEE36B692153D0A9877CC62A474002DF32E52139F0A0
  prefers := .smaller

namespace Sm2

/-- The identity that every key is bound to. -/
def identity : Bytes :=
  Utf8.encode "1234567812345678"

/-- The digest of the identity, the curve and a public key. -/
def binding (c : Curve) (key : Point) : Bytes :=
  let field (n : Nat) := Bytes.ofNat 32 n
  sm3 (Bytes.ofNat 2 (8 * identity.length) ++ identity ++ field c.a ++ field c.b ++
    field c.gx ++ field c.gy ++ field key.x ++ field key.y)

/-- The number that stands for a message under a key. -/
def messageNumber (c : Curve) (key : Point) (message : Bytes) : Nat :=
  Bytes.toNat (sm3 (binding c key ++ message)) % c.n

/-- Signs a message. The secret `n - 1` has no inverse to sign with. -/
def sign (c : Curve) (secret : Nat) (message : Bytes) : Option Bytes := do
  let e := messageNumber c (c.publicPoint secret) message
  let k ← nonce? sm3 c.n secret e
  let pt ← c.affine? (c.mul k c.generator)
  let r := (e + pt.x) % c.n
  if r = 0 ∨ (r + k) % c.n = 0 ∨ (secret + 1) % c.n = 0 then none
  else
    let s := invMod c.n (secret + 1) * subMod c.n k (r * secret) % c.n
    if s = 0 then none else some (joined r s)

/-- Checks a signature. -/
def verify (c : Curve) (key : Point) (message signature : Bytes) : Option Bool := do
  let (r, s) ← parts? c.n signature
  let e := messageNumber c key message
  let t := (r + s) % c.n
  if t = 0 then return false
  return match c.affine? (c.add (c.mul s c.generator) (c.mul t key)) with
  | some pt => (e + pt.x) % c.n == r
  | none => false

/-- SM2 on a curve. -/
def scheme (c : Curve) : Scheme where
  secret? := c.secret?
  point? := c.point?
  publicOf := c.publicPoint
  sign := sign c
  verify := verify c

end Sm2

end RelayHub.Crypto
