/-
What a block store keeps: blocks linked in both directions, and a record of
each transaction whose request has been answered.
-/
import RelayHub.Ledger.Block
import RelayHub.Message.Contract
import RelayHub.Store.Layout

set_option autoImplicit false

namespace RelayHub

open Json

/-! ## Stored blocks -/

/-- A processed block. It counts its transactions instead of keeping them, and
knows the hash of its successor once that is stored too. -/
structure StoredBlock where
  chain : ChainId
  number : UInt64
  previousHash : String
  hash : String
  dataHash : String
  timestamp : Int64
  txCount : UInt64
  origin : Bytes
  nextHash : Option String
deriving DecidableEq, Repr

namespace StoredBlock

/-- The record of a ledger's block, with no successor yet. -/
def ofRaw (chain : ChainId) (b : RawBlock) : StoredBlock :=
  { chain
    number := b.number
    previousHash := b.previousHash
    hash := b.hash
    dataHash := b.dataHash
    timestamp := b.timestamp
    txCount := UInt64.ofNat b.envelopes.length
    origin := b.origin
    nextHash := none }

/-- A stored block as JSON. -/
def codec : Codec StoredBlock :=
  Codec.record "StoredBlock"
    (.more (.required "chain_id" ChainId.codec) <|
     .more (.required "number" Codec.u64) <|
     .more (.required "previous_hash" Codec.text) <|
     .more (.required "hash" Codec.text) <|
     .more (.required "data_hash" Codec.text) <|
     .more (.required "timestamp" Codec.i64) <|
     .more (.required "tx_count" (Codec.word "usize")) <|
     .more (.required "origin" Codec.hex) <|
     .more (.nullable "next_hash" Codec.text) .none)
    (fun (chain, number, previousHash, hash, dataHash, timestamp, txCount, origin, nextHash, ()) =>
      ⟨chain, number, previousHash, hash, dataHash, timestamp, txCount, origin, nextHash⟩)
    (fun b =>
      (b.chain, b.number, b.previousHash, b.hash, b.dataHash, b.timestamp, b.txCount, b.origin,
       b.nextHash, ()))

/-- The stored bytes of a block. -/
def encode (b : StoredBlock) : Bytes :=
  Layout.text b.chain.name ++ Layout.word b.number ++ Layout.text b.previousHash ++
    Layout.text b.hash ++ Layout.text b.dataHash ++ Layout.signed b.timestamp ++
    Layout.word b.txCount ++ Layout.hex b.origin ++ Layout.optionalText b.nextHash

/-- Reads a block from stored bytes. -/
def decode (bytes : Bytes) : Except Layout.Error StoredBlock := do
  let (chain, rest) ← Layout.takeText bytes
  let (number, rest) ← Layout.takeWord rest
  let (previousHash, rest) ← Layout.takeText rest
  let (hash, rest) ← Layout.takeText rest
  let (dataHash, rest) ← Layout.takeText rest
  let (timestamp, rest) ← Layout.takeSigned rest
  let (txCount, rest) ← Layout.takeWord rest
  let (origin, rest) ← Layout.takeHex rest
  let (nextHash, _) ← Layout.takeOptionalText rest
  return ⟨⟨chain⟩, number, previousHash, hash, dataHash, timestamp, txCount, origin, nextHash⟩

end StoredBlock

/-! ## Records of answered transactions -/

/-- The transaction of an answered request, and the block that held it. -/
structure DedupRecord where
  txHash : String
  blockNumber : UInt64
  blockHash : String
  origin : Bytes
deriving DecidableEq, Repr

namespace DedupRecord

/-- A record as JSON. -/
def codec : Codec DedupRecord :=
  Codec.record "DedupRecord"
    (.more (.required "tx_hash" Codec.text) <|
     .more (.required "block_number" Codec.u64) <|
     .more (.required "block_hash" Codec.text) <|
     .more (.required "origin" Codec.hex) .none)
    (fun (txHash, blockNumber, blockHash, origin, ()) => ⟨txHash, blockNumber, blockHash, origin⟩)
    (fun r => (r.txHash, r.blockNumber, r.blockHash, r.origin, ()))

/-- The stored bytes of a record. -/
def encode (r : DedupRecord) : Bytes :=
  Layout.text r.txHash ++ Layout.word r.blockNumber ++ Layout.text r.blockHash ++
    Layout.hex r.origin

/-- Reads a record from stored bytes. -/
def decode (bytes : Bytes) : Except Layout.Error DedupRecord := do
  let (txHash, rest) ← Layout.takeText bytes
  let (blockNumber, rest) ← Layout.takeWord rest
  let (blockHash, rest) ← Layout.takeText rest
  let (origin, _) ← Layout.takeHex rest
  return ⟨txHash, blockNumber, blockHash, origin⟩

end DedupRecord

end RelayHub
