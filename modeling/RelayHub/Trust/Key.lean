/-
The key of a chain.

A chain signs with one of two algorithms. A hub that hosts the chain holds its
secret number and can sign; other hubs hold the public point and can only
verify. Which scheme carries out an algorithm is a parameter, the suite.
-/
import RelayHub.Crypto.Signature
import RelayHub.Files.Tree
import RelayHub.Text.Blank
import RelayHub.Trust.Error

set_option autoImplicit false

namespace RelayHub

open Json Crypto

/-! ## Algorithms -/

/-- The signature algorithms. -/
inductive SignatureAlgorithm where
  | ecdsa
  | sm2
deriving DecidableEq, Repr

namespace SignatureAlgorithm

/-- The name of an algorithm. -/
def name : SignatureAlgorithm → String
  | ecdsa => "ecdsa"
  | sm2 => "sm2"

/-- The names with what they stand for. -/
def names : List (String × SignatureAlgorithm) :=
  [("ecdsa", ecdsa), ("sm2", sm2)]

/-- The name of an algorithm in a description of a key. -/
def title : SignatureAlgorithm → String
  | ecdsa => "Ecdsa"
  | sm2 => "Sm2"

/-- An algorithm as JSON: its name. -/
def codec : Codec SignatureAlgorithm :=
  Codec.choice names name

/-- The algorithm with a name, in letters of either case. -/
def ofString (s : String) : Except CryptoError SignatureAlgorithm :=
  let lower := String.ofList (s.toList.map Char.toLower)
  match names.lookup lower with
  | some a => .ok a
  | none => .error (.keyMaterial ("unknown signature algorithm: " ++ lower))

end SignatureAlgorithm

/-- The scheme that carries out each algorithm. -/
abbrev Suite := SignatureAlgorithm → Scheme

/-- The standard schemes. -/
def Suite.standard : Suite
  | .ecdsa => Ecdsa.scheme secp256k1
  | .sm2 => Sm2.scheme sm2Curve

/-! ## Keys -/

/-- A key: a secret number, or a public point. -/
inductive ChainKey where
  | signing (algorithm : SignatureAlgorithm) (secret : Nat)
  | verifying (algorithm : SignatureAlgorithm) (point : Point)
deriving DecidableEq, Repr

namespace ChainKey

/-- The key with a secret number given as bytes. -/
def ofSecret (suite : Suite) (algorithm : SignatureAlgorithm) (bytes : Bytes) :
    Except CryptoError ChainKey :=
  match (suite algorithm).secret? bytes with
  | some secret => .ok (signing algorithm secret)
  | none => .error .badPrivateKey

/-- The key with a public point given as bytes. -/
def ofPoint (suite : Suite) (algorithm : SignatureAlgorithm) (bytes : Bytes) :
    Except CryptoError ChainKey :=
  match (suite algorithm).point? bytes with
  | some point => .ok (verifying algorithm point)
  | none => .error .badPublicKey

/-- The algorithm of a key. -/
def algorithm : ChainKey → SignatureAlgorithm
  | signing a _ => a
  | verifying a _ => a

/-- Whether a key can sign. -/
def canSign : ChainKey → Bool
  | signing _ _ => true
  | verifying _ _ => false

/-- The secret number, if the key has one. -/
def secret? : ChainKey → Option Nat
  | signing _ secret => some secret
  | verifying _ _ => none

/-- The public point. -/
def point (suite : Suite) : ChainKey → Point
  | signing a secret => (suite a).publicOf secret
  | verifying _ point => point

/-- The key without its secret. -/
def toPublic (suite : Suite) (k : ChainKey) : ChainKey :=
  verifying k.algorithm (k.point suite)

/-- The public point as bytes. -/
def publicBytes (suite : Suite) (k : ChainKey) : Bytes :=
  Curve.pointBytes (k.point suite)

/-- What a key is called in a description; its secret is not shown. -/
def describe (suite : Suite) (k : ChainKey) : String :=
  "ChainKey \x7b algorithm: " ++ k.algorithm.title ++
    ", private: " ++ (if k.canSign then "true" else "false") ++
    ", public_key: " ++ Quoted.text (Hex.encode (k.publicBytes suite)) ++ " \x7d"

/-- What both schemes say of a number they cannot use. -/
def schemeFailure : String := "signature error"

/-- Signs a digest with the key of a chain. -/
def sign (suite : Suite) (k : ChainKey) (chain : ChainId) (digest : Bytes) :
    Except CryptoError Bytes :=
  match k with
  | signing a secret =>
    match (suite a).sign secret digest with
    | some signature => .ok signature
    | none => .error (.signingFailed schemeFailure)
  | verifying _ _ => .error (.missingPrivateKey chain)

/-- Checks a signature of a digest. Bytes that are no signature are an error;
a signature that does not fit is not. -/
def verify (suite : Suite) (k : ChainKey) (signature digest : Bytes) : Except CryptoError Bool :=
  if signature.length ≠ signatureLength then
    .error (.signatureLength signatureLength signature.length)
  else
    match (suite k.algorithm).verify (k.point suite) digest signature with
    | some fits => .ok fits
    | none => .error (.malformedSignature schemeFailure)

end ChainKey

/-! ## Key material -/

namespace KeyMaterial

/-- The bytes of hexadecimal text, which may begin with `0x`. -/
def decodeHex (s : String) : Except Hex.Error Bytes :=
  match s.toList with
  | '0' :: 'x' :: rest => Hex.decode (String.ofList rest)
  | _ => Hex.decode s

/-- The bytes of a key: given as hexadecimal text, or in a file that holds
such text. Blanks around either do not matter. -/
def decode (files : TextFiles) (value : String) : Except CryptoError Bytes :=
  let value := Blank.trim value
  if value.isEmpty then .error (.keyMaterial "empty key material")
  else
    match decodeHex value with
    | .ok bytes => .ok bytes
    | .error _ =>
      match files (Path.ofString value) with
      | .error e => .error (.keyMaterial (value ++ ": " ++ e.message))
      | .ok contents =>
        match decodeHex (Blank.trim contents) with
        | .ok bytes => .ok bytes
        | .error e => .error (.keyMaterial (value ++ ": " ++ e.message))

end KeyMaterial

end RelayHub
