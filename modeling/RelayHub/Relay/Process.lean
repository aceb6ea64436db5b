/-
What a relay does with a block.

It goes through the transactions in order. A request of the chain itself whose
transaction has no record is handed to its destination until that answers or
refuses for good. An answered request is recorded first; then its result is
recorded with the routing contract and its callback is called. When all
transactions are done, the block is stored. Every operation is tried until it
succeeds.
-/
import RelayHub.Relay.Cursor

set_option autoImplicit false

namespace RelayHub

/-! ## Answers that will do -/

namespace Accept

/-- The final answer to a request: a response, or a refusal for good. -/
def settled (r : Except HubError HubResponse) : Option (Except HubError HubResponse) :=
  match r with
  | .ok response => some (.ok response)
  | .error e => if e.isTransient then none else some (.error e)

/-- A contract call that was carried out. -/
def carriedOut (r : Except LedgerError ContractResponse) : Option Unit :=
  match r with
  | .ok response => if response.isOk then some () else none
  | .error _ => none

end Accept

/-! ## Requests -/

/-- A relay of one chain, with the name of its routing contract. -/
structure Relay where
  chain : ChainId
  router : String
deriving DecidableEq, Repr

namespace Relay

/-- The relay of a chain that the registry says is hosted here. -/
def ofRegistry (registry : Registry) (chain : ChainId) : Except RelayError Relay :=
  match registry.hosted chain with
  | .ok hosted => .ok ⟨chain, hosted.router⟩
  | .error e => .error (.registry e)

/-- Counts. -/
def count (counter : Counter) : RelayScript Unit :=
  .insist (.count counter) some

/-- Calls a contract of the chain. -/
def invoke (call : Invocation) : RelayScript Unit :=
  .insist (.invoke call) Accept.carriedOut

/-- The call that records the result of a request. -/
def resultCall (relay : Relay) (q : CrossChainRequest) (r : HubResponse) : Invocation where
  contract := relay.router
  function := Contract.recordResult
  args :=
    [q.origin.bytes, q.destination.bytes, Utf8.encode q.transactionId, Utf8.encode q.stepId,
     r.payload, r.signer, Utf8.encode r.errorMessage]

/-- The call that a response asks for, if it asks for one. A callback that
cannot be read counts as none. -/
def callbackCall? (r : HubResponse) : Option Invocation :=
  match r.callbackDescriptor with
  | .ok (some d) =>
    if d.isActionable then some ⟨d.chaincode, d.function, d.args.map Utf8.encode⟩ else none
  | _ => none

/-- Records the result of a request and makes the callback. -/
def applyResult (relay : Relay) (q : CrossChainRequest) (r : HubResponse) : RelayScript Unit := do
  invoke (relay.resultCall q r)
  match callbackCall? r with
  | some call => invoke call
  | none => return ()

/-- The record of an answered request. -/
def recordOf (q : CrossChainRequest) : DedupRecord :=
  ⟨q.found.txHash, q.found.blockNumber, q.found.blockHash, q.found.raw⟩

/-- Relays an answered request. -/
def answered (relay : Relay) (q : CrossChainRequest) (r : HubResponse) : RelayScript Unit := do
  -- The record comes before the calls: from here on a replay leaves the request alone.
  let _ ← Script.insist (.recordSeen (recordOf q)) succeeded
  relay.applyResult q r
  count .requestsRelayed

/-- Relays a request. -/
def relayRequest (relay : Relay) (q : CrossChainRequest) : RelayScript Unit :=
  if q.origin ≠ relay.chain then count .malformedRequests
  else do
    let seen ← Script.insist (.hasSeen q.found.txHash) succeeded
    if seen then count .duplicatesSkipped
    else
      match ← Script.insist (.dispatch q) Accept.settled with
      -- A refusal leaves no record, so a replay asks again.
      | .error _ => count .dispatchFailures
      | .ok r => relay.answered q r

/-! ## Blocks -/

/-- Goes through one transaction of a block. -/
def relayEnvelope (relay : Relay) (b : RawBlock) (e : Envelope) : RelayScript Unit :=
  match e.request? b with
  | .error _ => count .malformedRequests
  | .ok none => .done ()
  | .ok (some q) => relay.relayRequest q

/-- Stores a block. -/
def persist (relay : Relay) (b : RawBlock) : RelayScript Unit := do
  Script.insist (.storeBlock (.ofRaw relay.chain b)) succeeded
  count .blocksProcessed

/-- Relays the requests of a block, then stores it. -/
def processBlock (relay : Relay) (b : RawBlock) : RelayScript Unit := do
  Script.each b.envelopes (relay.relayEnvelope b)
  relay.persist b

end Relay

end RelayHub
