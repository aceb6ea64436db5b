/-
The calling side of a hub.

A request of a local chain is signed with that chain's key, unless it has a
signer, and gets the current time, unless it has one. It is then sent to the
hub of its destination; if the time for that runs out, that hub is dialled
anew, a few times. What comes back counts only if it answers this very request
and the destination chain has signed it.
-/
import RelayHub.Hub.Transport
import RelayHub.Retry.Backoff
import RelayHub.Trust.Store

set_option autoImplicit false

namespace RelayHub

/-- What the calling side works with: signatures, a way to reach other hubs,
and the time in seconds. -/
structure HubClient (σ : Type) where
  signatures : Signatures
  connector : Connector σ
  now : StateM σ Int64

/-- What is wrong with a signature, if anything is. -/
def Signatures.objection? (s : Signatures) (chain : ChainId) (signature digest : Bytes) :
    Option HubError :=
  match s.verify chain signature digest with
  | .ok true => none
  | .ok false => some ⟨.unauthenticated, "signer invalid"⟩
  | .error e => some ⟨.unauthenticated, "signer invalid: " ++ e.message⟩

namespace HubClient

variable {σ : Type}

/-- How often another hub is dialled anew after the time for a call ran out. -/
def redials : Nat := 5

/-- The policy for calls. -/
def policy : FixedBackoff := .limited 0 redials

/-! ## Before the call -/

/-- The request with a signer. -/
def signed (c : HubClient σ) (q : HubRequest) : Except HubError HubRequest :=
  if q.signer.isEmpty then
    match c.signatures.sign q.origin q.payload with
    | .ok signer => .ok { q with signer }
    | .error e => .error (.ofCrypto e)
  else .ok q

/-- The request with a time. -/
def stamped (c : HubClient σ) (q : HubRequest) : StateM σ HubRequest := fun s =>
  if q.timestamp = 0 then
    let (now, s) := c.now s
    ({ q with timestamp := now }, s)
  else (q, s)

/-! ## The call -/

/-- Dials the hub of the destination and calls it. -/
def call (c : HubClient σ) (q : HubRequest) : Action σ HubError HubResponse := do
  let connection ← c.connector.connect q.destination
  connection q

/-- Calls, and again while the time for the call runs out. -/
def send (c : HubClient σ) (q : HubRequest) : Action σ HubError HubResponse :=
  Action.of fun s =>
    -- A call whose time ran out may have been carried out all the same.
    let (r, s) := policy.run HubError.isDeadlineExceeded (c.call q) redials s
    (r.last, s)

/-! ## After the call -/

/-- What is wrong with a response to a request, if anything is. -/
def objection? (c : HubClient σ) (q : HubRequest) (r : HubResponse) : Option HubError :=
  if r.destination ≠ q.destination then
    some ⟨.unauthenticated,
      "response signed for " ++ r.destination.name ++ " but request targeted " ++
        q.destination.name⟩
  else if r.origin ≠ q.origin ∨ r.transactionId ≠ q.transactionId ∨ r.stepId ≠ q.stepId then
    some ⟨.unauthenticated,
      "response for " ++ r.origin.name ++ "/" ++ r.transactionId ++ "/" ++ r.stepId ++
        " does not match request " ++ q.origin.name ++ "/" ++ q.transactionId ++ "/" ++ q.stepId⟩
  else c.signatures.objection? r.signerChain r.signer r.payload

/-! ## All of it -/

/-- Signs and sends a request, and checks the response. -/
def invoke (c : HubClient σ) : HubApi σ := fun q => do
  let q ← Action.ofExcept (c.signed q)
  let q ← (fun s => let (q, s) := c.stamped q s; (.ok q, s) : Action σ HubError HubRequest)
  let r ← c.send q
  match c.objection? q r with
  | none => return r
  | some e => throw e

/-- Sends a request found on a chain. -/
def dispatch (c : HubClient σ) (r : CrossChainRequest) : Action σ HubError HubResponse :=
  c.invoke (.ofRequest r)

end HubClient

end RelayHub
