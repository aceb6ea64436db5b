/-
A ledger behind a web gateway.

The gateway serves the blocks of each chain under the chain's name and the
block's number, and takes contract calls under the chain's name. That a block
is not there yet is said by its code for things not found; a failure of the
gateway itself is worth a retry, and any other refusal of a call is not.
-/
import RelayHub.Http.Peer
import RelayHub.Ledger.Basic

set_option autoImplicit false

namespace RelayHub

open Json

/-- A gateway, by the address that all its addresses begin with. -/
structure Gateway where
  base : String
deriving DecidableEq, Repr

namespace Gateway

/-- The gateway at an address. -/
def ofAddress (address : String) : Gateway := ⟨withoutSlashes address⟩

/-- The address of a block. -/
def blockAddress (g : Gateway) (chain : ChainId) (number : UInt64) : String :=
  g.base ++ "/channels/" ++ chain.name ++ "/blocks/" ++ toString number.toNat

/-- The address for contract calls. -/
def invokeAddress (g : Gateway) (chain : ChainId) : String :=
  g.base ++ "/channels/" ++ chain.name ++ "/invoke"

/-- A contract call as JSON. -/
def writeCall (i : Invocation) : Bytes :=
  openBrace :: separated
    [writeText "contract" ++ colon :: writeText i.contract,
     writeText "function" ++ colon :: writeText i.function,
     writeText "args" ++ colon :: Codec.hex.list.write i.args] ++
    [closeBrace]

/-- What is said of a failure of the gateway itself. -/
def failure (address : String) (code : Nat) : LedgerError :=
  .unavailable (address ++ ": HTTP " ++ HttpReply.codeText code)

/-- The block in a reply. -/
def blockOf (g : Gateway) (chain : ChainId) (number : UInt64) (r : HttpReply) :
    Except LedgerError RawBlock :=
  let address := g.blockAddress chain number
  match r with
  | .answered code body =>
    if code = 404 then .error (.notFound chain number)
    else if HttpReply.isSuccess code then
      match RawBlock.codec.decode body with
      | .ok b => .ok b
      | .error _ => .error (.badData HttpReply.badBody)
    else .error (failure address code)
  | _ => .error (.unavailable (HttpReply.noAnswer address))

/-- The answer to a contract call in a reply. -/
def answerOf (g : Gateway) (chain : ChainId) (r : HttpReply) :
    Except LedgerError ContractResponse :=
  let address := g.invokeAddress chain
  match r with
  | .answered code body =>
    if HttpReply.isServerFailure code then .error (failure address code)
    else if HttpReply.isSuccess code then
      match ContractResponse.codec.decode body with
      | .ok answer => .ok answer
      | .error _ => .error (.badData HttpReply.badBody)
    else
      .error (.invocationFailed
        ("HTTP " ++ HttpReply.codeText code ++ ": " ++ Utf8.decodeLossy body))
  | _ => .error (.unavailable (HttpReply.noAnswer address))

/-- The ledger behind a gateway. -/
def ledger {σ : Type} (peer : HttpPeer σ) (g : Gateway) : Ledger σ where
  query chain number := Action.of fun s =>
    let (r, s) := peer.get (g.blockAddress chain number) s
    (g.blockOf chain number r, s)
  invoke chain call := Action.of fun s =>
    let (r, s) := peer.post (g.invokeAddress chain) (writeCall call) s
    (g.answerOf chain r, s)

end Gateway

end RelayHub
