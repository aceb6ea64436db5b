/-
Blocks as a ledger hands them out: numbered, linked by hash, and holding the
envelopes of their transactions.
-/
import RelayHub.Json.Record

set_option autoImplicit false

namespace RelayHub

open Json

/-- A transaction of a block: its hash if it has one, the arguments of the
contract call, and the raw bytes. -/
structure Envelope where
  txHash : Option String
  args : List Bytes
  raw : Bytes
deriving DecidableEq, Repr

namespace Envelope

/-- A contract call with no raw bytes. -/
def invocation (txHash : String) (args : List Bytes) : Envelope :=
  ⟨some txHash, args, []⟩

/-- The name of the function called, which is the first argument. -/
def function? (e : Envelope) : Option Bytes :=
  e.args.head?

/-- An envelope as JSON. -/
def codec : Codec Envelope :=
  Codec.record "Envelope"
    (.more (.optional "tx_hash" Codec.text) <|
     .more (.defaulted "args" Codec.hex.list []) <|
     .more (.defaulted "raw" Codec.hex []) .none)
    (fun (txHash, args, raw, ()) => ⟨txHash, args, raw⟩)
    (fun e => (e.txHash, e.args, e.raw, ()))

end Envelope

/-- A block of a ledger. -/
structure RawBlock where
  number : UInt64
  previousHash : String
  dataHash : String
  hash : String
  timestamp : Int64
  envelopes : List Envelope
  origin : Bytes
deriving DecidableEq, Repr

namespace RawBlock

/-- A block as JSON. -/
def codec : Codec RawBlock :=
  Codec.record "RawBlock"
    (.more (.required "number" Codec.u64) <|
     .more (.required "previous_hash" Codec.text) <|
     .more (.required "data_hash" Codec.text) <|
     .more (.required "hash" Codec.text) <|
     .more (.required "timestamp" Codec.i64) <|
     .more (.defaulted "envelopes" Envelope.codec.list []) <|
     .more (.defaulted "origin" Codec.hex []) .none)
    (fun (number, previousHash, dataHash, hash, timestamp, envelopes, origin, ()) =>
      ⟨number, previousHash, dataHash, hash, timestamp, envelopes, origin⟩)
    (fun b =>
      (b.number, b.previousHash, b.dataHash, b.hash, b.timestamp, b.envelopes, b.origin, ()))

end RawBlock

end RelayHub
