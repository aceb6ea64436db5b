/-
The operations of a relay.

A relay of one chain touches the world only through these: it reads the chain's
blocks and calls its contracts, reads and writes the chain's store, hands
requests to their destinations, and counts. What carries them out is given by
its links.
-/
import RelayHub.Relay.Error
import RelayHub.Relay.Stats
import RelayHub.Retry.Script

set_option autoImplicit false

namespace RelayHub

/-- An operation of a relay. -/
inductive RelayOp where
  | latest
  | query (number : UInt64)
  | hasSeen (txHash : String)
  | dispatch (request : CrossChainRequest)
  | recordSeen (record : DedupRecord)
  | invoke (call : Invocation)
  | storeBlock (block : StoredBlock)
  | count (counter : Counter)
deriving DecidableEq, Repr

/-- What an operation answers. -/
abbrev RelayOp.Answer : RelayOp → Type
  | latest => Except StoreError UInt64
  | query _ => Except LedgerError RawBlock
  | hasSeen _ => Except StoreError Bool
  | dispatch _ => Except HubError HubResponse
  | recordSeen _ => Except StoreError Bool
  | invoke _ => Except LedgerError ContractResponse
  | storeBlock _ => Except StoreError Unit
  | count _ => Unit

/-- A script of relay operations. -/
abbrev RelayScript := Script RelayOp RelayOp.Answer

/-- What carries out the operations: the chain's store and ledger, the way to
other chains, and the counters. -/
structure RelayLinks (σ : Type) where
  chain : ChainId
  store : BlockStore σ
  ledger : Ledger σ
  dispatch : CrossChainRequest → Action σ HubError HubResponse
  count : Counter → StateM σ Unit

/-- Carries out an operation. -/
def RelayLinks.perform {σ : Type} (p : RelayLinks σ) : (op : RelayOp) → StateM σ op.Answer
  | .latest => (p.store.latest p.chain).outcome
  | .query number => (p.ledger.query p.chain number).outcome
  | .hasSeen txHash => (p.store.hasSeen txHash).outcome
  | .dispatch request => (p.dispatch request).outcome
  | .recordSeen record => (p.store.recordSeen record).outcome
  | .invoke call => (p.ledger.invoke p.chain call).outcome
  | .storeBlock block => (p.store.storeBlock block).outcome
  | .count counter => p.count counter

end RelayHub
