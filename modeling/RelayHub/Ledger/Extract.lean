/-
Requests in transactions.

A transaction holds a request to another chain if it calls the routing
contract's function for that, with the origin, the destination, the ids of the
transaction and the step, the payload and the signer. Every other transaction
is passed over; so is one that has no hash.
-/
import RelayHub.Ledger.Block
import RelayHub.Message.Request

set_option autoImplicit false

namespace RelayHub

/-! ## Errors -/

/-- The texts among a request's arguments. -/
inductive RequestField where
  | origin
  | destination
  | transactionId
  | stepId
deriving DecidableEq, Repr

/-- The name of a field. -/
def RequestField.name : RequestField → String
  | origin => "from"
  | destination => "to"
  | transactionId => "transaction_id"
  | stepId => "step_id"

/-- Why a transaction that looks like a request is none. -/
inductive ExtractError where
  | argumentCount (function : String) (expected actual : Nat)
  | notText (field : RequestField)
  | emptyField (field : RequestField)
deriving DecidableEq, Repr

/-- The sentence for a failure. -/
def ExtractError.message : ExtractError → String
  | argumentCount function expected actual =>
    function ++ " expects " ++ toString expected ++ " arguments, got " ++ toString actual
  | notText field => "Argument " ++ field.name ++ " is not valid UTF-8"
  | emptyField field => "Argument " ++ field.name ++ " must not be empty"

/-! ## Extraction -/

namespace Extract

/-- How many arguments a request has, with the name of the function. -/
def argumentCount : Nat := 7

/-- Reads a text argument. -/
def text (field : RequestField) (bytes : Bytes) : Except ExtractError String :=
  match Utf8.decode? bytes with
  | some s => .ok s
  | none => .error (.notText field)

/-- Reads a text argument that must not be empty. -/
def filled (field : RequestField) (bytes : Bytes) : Except ExtractError String := do
  let s ← text field bytes
  if s.isEmpty then throw (.emptyField field)
  return s

/-- The request with these arguments, found in a transaction of a block. -/
def request (found : TxOrigin) (args : List Bytes) : Except ExtractError CrossChainRequest :=
  match args with
  | [_, origin, destination, transactionId, stepId, payload, signer] => do
    let origin ← filled .origin origin
    let destination ← filled .destination destination
    let transactionId ← filled .transactionId transactionId
    let stepId ← text .stepId stepId
    return { origin := ⟨origin⟩
             destination := ⟨destination⟩
             transactionId, stepId, payload, signer
             timestamp := 0
             found }
  | _ => .error (.argumentCount Contract.invoke argumentCount args.length)

/-- Whether a transaction calls the routing contract's function. -/
def isInvoke (e : Envelope) : Bool :=
  e.function? == some (Utf8.encode Contract.invoke)

end Extract

/-- The request that a transaction of a block holds, if it holds one. -/
def Envelope.request? (e : Envelope) (b : RawBlock) :
    Except ExtractError (Option CrossChainRequest) :=
  match e.txHash with
  | none => .ok none
  | some txHash =>
    if !txHash.isEmpty && Extract.isInvoke e then
      (Extract.request ⟨txHash, b.number, b.hash, e.raw⟩ e.args).map some
    else .ok none

end RelayHub
