/-
Requests between chains, and the messages that carry them between hubs.

A request is found in a transaction of its origin chain and remembers where.
A hub sends it on as a hub request, without that memory, and gets a hub
response, which the destination chain has signed.
-/
import RelayHub.Message.Contract

set_option autoImplicit false

namespace RelayHub

open Json

/-! ## Requests found on a chain -/

/-- The transaction that a request was found in. -/
structure TxOrigin where
  txHash : String
  blockNumber : UInt64
  blockHash : String
  raw : Bytes
deriving DecidableEq, Repr

namespace TxOrigin

/-- An origin as JSON. -/
def codec : Codec TxOrigin :=
  Codec.record "TxOrigin"
    (.more (.required "tx_hash" Codec.text) <|
     .more (.required "block_number" Codec.u64) <|
     .more (.required "block_hash" Codec.text) <|
     .more (.required "raw" Codec.hex) .none)
    (fun (txHash, blockNumber, blockHash, raw, ()) => ⟨txHash, blockNumber, blockHash, raw⟩)
    (fun o => (o.txHash, o.blockNumber, o.blockHash, o.raw, ()))

end TxOrigin

/-- A request of one chain to another. -/
structure CrossChainRequest where
  origin : ChainId
  destination : ChainId
  transactionId : String
  stepId : String
  payload : Bytes
  signer : Bytes
  timestamp : Int64
  found : TxOrigin
deriving DecidableEq, Repr

namespace CrossChainRequest

/-- A request as JSON. -/
def codec : Codec CrossChainRequest :=
  Codec.record "CrossChainRequest"
    (.more (.required "from" ChainId.codec) <|
     .more (.required "to" ChainId.codec) <|
     .more (.required "transaction_id" Codec.text) <|
     .more (.required "step_id" Codec.text) <|
     .more (.required "payload" Codec.hex) <|
     .more (.required "signer" Codec.hex) <|
     .more (.required "timestamp" Codec.i64) <|
     .more (.required "origin" TxOrigin.codec) .none)
    (fun (origin, destination, transactionId, stepId, payload, signer, timestamp, found, ()) =>
      ⟨origin, destination, transactionId, stepId, payload, signer, timestamp, found⟩)
    (fun r =>
      (r.origin, r.destination, r.transactionId, r.stepId, r.payload, r.signer, r.timestamp,
       r.found, ()))

end CrossChainRequest

/-! ## Messages between hubs -/

/-- A request as one hub sends it to another. The signer is the origin chain's
signature of the payload, empty until it is signed. -/
structure HubRequest where
  origin : ChainId
  destination : ChainId
  transactionId : String
  stepId : String
  payload : Bytes
  signer : Bytes
  timestamp : Int64
deriving DecidableEq, Repr

namespace HubRequest

/-- The message for a request found on a chain. -/
def ofRequest (r : CrossChainRequest) : HubRequest :=
  ⟨r.origin, r.destination, r.transactionId, r.stepId, r.payload, r.signer, r.timestamp⟩

/-- A hub request as JSON. -/
def codec : Codec HubRequest :=
  Codec.record "HubRequest"
    (.more (.required "from" ChainId.codec) <|
     .more (.required "to" ChainId.codec) <|
     .more (.required "transaction_id" Codec.text) <|
     .more (.required "step_id" Codec.text) <|
     .more (.required "payload" Codec.hex) <|
     .more (.defaulted "signer" Codec.hex []) <|
     .more (.defaulted "timestamp" Codec.i64 0) .none)
    (fun (origin, destination, transactionId, stepId, payload, signer, timestamp, ()) =>
      ⟨origin, destination, transactionId, stepId, payload, signer, timestamp⟩)
    (fun r =>
      (r.origin, r.destination, r.transactionId, r.stepId, r.payload, r.signer, r.timestamp, ()))

end HubRequest

/-- The answer of the destination's hub. The payload is the contract's answer,
and the signer is the destination chain's signature of it. -/
structure HubResponse where
  origin : ChainId
  destination : ChainId
  transactionId : String
  stepId : String
  payload : Bytes
  signer : Bytes
  errorMessage : String
  callback : Option Bytes
deriving DecidableEq, Repr

namespace HubResponse

/-- The chain that signed the payload. -/
def signerChain (r : HubResponse) : ChainId :=
  r.destination

/-- Whether the call failed on the destination chain. -/
def isError (r : HubResponse) : Bool :=
  !r.errorMessage.isEmpty

/-- The callback that the answer carries; empty bytes carry none. -/
def callbackDescriptor (r : HubResponse) : Except Fault (Option CallbackDescriptor) :=
  match r.callback with
  | some (b :: rest) => (CallbackDescriptor.codec.decode (b :: rest)).map some
  | _ => .ok none

/-- A hub response as JSON. -/
def codec : Codec HubResponse :=
  Codec.record "HubResponse"
    (.more (.required "from" ChainId.codec) <|
     .more (.required "to" ChainId.codec) <|
     .more (.required "transaction_id" Codec.text) <|
     .more (.required "step_id" Codec.text) <|
     .more (.required "payload" Codec.hex) <|
     .more (.required "signer" Codec.hex) <|
     .more (.defaulted "error_message" Codec.text "") <|
     .more (.optional "callback" Codec.hex) .none)
    (fun (origin, destination, transactionId, stepId, payload, signer, errorMessage, callback, ()) =>
      ⟨origin, destination, transactionId, stepId, payload, signer, errorMessage, callback⟩)
    (fun r =>
      (r.origin, r.destination, r.transactionId, r.stepId, r.payload, r.signer, r.errorMessage,
       r.callback, ()))

end HubResponse

end RelayHub
