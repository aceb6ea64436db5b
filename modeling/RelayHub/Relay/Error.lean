/-
Why a step of the relay fails, and whether the step is worth a retry.

Failures of transport and storage may pass; what is wrong with a request or
with the configuration stays wrong.
-/
import RelayHub.Hub.Error
import RelayHub.Hub.Registry
import RelayHub.Ledger.Basic
import RelayHub.Ledger.Extract
import RelayHub.Store.BlockStore

set_option autoImplicit false

namespace RelayHub

/-- A failure of the relay. -/
inductive RelayError where
  | dispatch (cause : HubError)
  | ledger (cause : LedgerError)
  | store (cause : StoreError)
  | registry (cause : RegistryError)
  | extract (cause : ExtractError)
  | rejected (contract function message : String)
  | malformedCallback (message : String)
  | foreignOrigin (chain origin : ChainId)
deriving DecidableEq, Repr

namespace RelayError

/-- The sentence for a failure. -/
def message : RelayError → String
  | dispatch e => "Dispatch failed: " ++ e.text
  | ledger e => "Ledger error: " ++ e.message
  | store e => "Store error: " ++ e.message
  | registry e => "Registry error: " ++ e.message
  | extract e => "Extract error: " ++ e.message
  | rejected contract function m =>
    "Contract " ++ contract ++ "." ++ function ++ " rejected call: " ++ m
  | malformedCallback m => "Malformed callback descriptor: " ++ m
  | foreignOrigin chain origin =>
    "Request on " ++ chain.name ++ " claims origin " ++ origin.name

/-- Whether the step may succeed later. -/
def isTransient : RelayError → Bool
  | dispatch e => e.isTransient
  | ledger _ | store _ | rejected _ _ _ => true
  | registry _ | extract _ | malformedCallback _ | foreignOrigin _ _ => false

end RelayError

end RelayHub
