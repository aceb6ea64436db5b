/-
What the hub asks of a ledger: a block by its number, and a contract call.
-/
import RelayHub.Action
import RelayHub.Ledger.Block
import RelayHub.Message.Contract

set_option autoImplicit false

namespace RelayHub

/-- Why a ledger fails. That a block is not there yet is one of the reasons. -/
inductive LedgerError where
  | notFound (chain : ChainId) (number : UInt64)
  | unknownChain (chain : ChainId)
  | unavailable (message : String)
  | invocationFailed (message : String)
  | badData (message : String)
deriving DecidableEq, Repr

namespace LedgerError

/-- The sentence for a failure. -/
def message : LedgerError → String
  | notFound chain number =>
    "Block " ++ toString number.toNat ++ " not found on chain " ++ chain.name
  | unknownChain chain => "Unknown chain: " ++ chain.name
  | unavailable m => "Ledger unavailable: " ++ m
  | invocationFailed m => "Invocation failed: " ++ m
  | badData m => "Decode error: " ++ m

/-- Whether a block is just not there yet. -/
def isNotFound : LedgerError → Bool
  | notFound _ _ => true
  | _ => false

end LedgerError

/-- A call of a contract. -/
structure Invocation where
  contract : String
  function : String
  args : List Bytes
deriving DecidableEq, Repr

/-- A ledger kept in a state of type `σ`. -/
structure Ledger (σ : Type) where
  query : ChainId → UInt64 → Action σ LedgerError RawBlock
  invoke : ChainId → Invocation → Action σ LedgerError ContractResponse

/-- The same ledger, kept in a part of a larger state. -/
def Ledger.within {σ τ : Type} (p : Part σ τ) (l : Ledger τ) : Ledger σ where
  query chain number := (l.query chain number).within p
  invoke chain call := (l.invoke chain call).within p

end RelayHub
