/-
The called side of a hub.

A request to a local chain of another chain is carried out if the other chain
has signed it: the proxy contract of the target is called once, and its answer
goes back signed by the destination chain. A call that the ledger refuses is
answered too, with a signed failure and its message.
-/
import RelayHub.Hub.Client
import RelayHub.Hub.Registry
import RelayHub.Ledger.Basic

set_option autoImplicit false

namespace RelayHub

open Json

/-- What the called side works with: the known chains, signatures, and the
ledger of each local chain. -/
structure HubExecutor (σ : Type) where
  registry : Registry
  signatures : Signatures
  ledger : ChainId → Ledger σ

namespace HubExecutor

variable {σ : Type}

/-! ## Refusals -/

/-- Refuses a request of a chain to itself. -/
def sameChain (chain : ChainId) : HubError :=
  ⟨.invalidArgument, "from and to are both " ++ chain.name⟩

/-- Refuses a request to a chain that is not hosted here. -/
def notHosted (chain : ChainId) : HubError :=
  ⟨.notFound, "chain " ++ chain.name ++ " is not hosted by this hub"⟩

/-- The payload of a request that is to be carried out, or why it is not. -/
def accept (x : HubExecutor σ) (q : HubRequest) : Except HubError InvokePayload := do
  -- What costs least is checked first, and the payload is read only when it is signed.
  if q.origin = q.destination then throw (sameChain q.origin)
  if !x.registry.isLocal q.destination then throw (notHosted q.destination)
  match x.signatures.objection? q.origin q.signer q.payload with
  | some e => throw e
  | none =>
    match InvokePayload.decode q.payload with
    | .ok p => return p
    | .error fault => throw ⟨.invalidArgument, "malformed payload: " ++ fault.message⟩

/-! ## The call of the proxy contract -/

/-- The chain whose proxy contract is called: the channel that the payload
names, or the destination. -/
def target (q : HubRequest) (p : InvokePayload) : ChainId :=
  match p.channel with
  | some channel => if channel.isEmpty then q.destination else ⟨channel⟩
  | none => q.destination

/-- The call that a payload asks for. -/
def proxyCall (chain : LocalChain) (p : InvokePayload) : Invocation where
  contract := chain.proxy
  function := Contract.proxyCall
  args := [Utf8.encode p.chaincode, Utf8.encode p.function, Codec.text.list.write p.args]

/-- What is answered for the outcome of a call, and the error message that goes
with it, which is empty for a success. -/
def answer (r : Except LedgerError ContractResponse) : ContractResponse × String :=
  match r with
  | .ok response =>
    if response.isOk then (response, "")
    else
      let message :=
        if response.message.isEmpty then
          "contract returned status " ++ toString response.status.toInt
        else response.message
      (.error message, message)
  | .error e => (.error e.message, e.message)

/-- Calls the proxy contract of a chain. -/
def callProxy (x : HubExecutor σ) (chain : ChainId) (p : InvokePayload) :
    Action σ HubError (ContractResponse × String) :=
  Action.of fun s =>
    match x.registry.hosted chain with
    | .error e => (.error ⟨.notFound, e.message⟩, s)
    | .ok hosted =>
      -- A call that fails is answered too, and the answer is signed like any other.
      let (r, s) := ((x.ledger chain).invoke chain (proxyCall hosted p)).perform s
      (.ok (answer r), s)

/-! ## All of it -/

/-- The response to a request: the answer, signed by the destination chain, with
the callback that the request asked for. -/
def respond (x : HubExecutor σ) (q : HubRequest) (p : InvokePayload)
    (answered : ContractResponse × String) : Except HubError HubResponse :=
  let payload := ContractResponse.codec.write answered.1
  match x.signatures.sign q.destination payload with
  | .error e => .error (.ofCrypto e)
  | .ok signer =>
    .ok
      { origin := q.origin
        destination := q.destination
        transactionId := q.transactionId
        stepId := q.stepId
        payload, signer
        errorMessage := answered.2
        callback := p.callback.map CallbackDescriptor.codec.write }

/-- Carries out a request. -/
def execute (x : HubExecutor σ) : HubApi σ := fun q => do
  let p ← Action.ofExcept (x.accept q)
  let answered ← x.callProxy (target q p) p
  Action.ofExcept (x.respond q p answered)

end HubExecutor

end RelayHub
