/-
What a relay does with an answer, and who has asked for it.

A client accepts an answer for the sake of its payload, which its destination
has signed. The callback and the error message come beside the payload and are
covered by no signature. So what the relay records is what the destination has
signed, and what else it does is what was asked for as far as these two arrive
as the destination's hub has written them.

A hub signs with one key the answers that it gives and the requests that it sends, and
a signature does not say which of the two it is for. So a payload that is signed by the
destination is a contract's answer only if it is not one of its own requests, which
somebody has kept and sends back in place of an answer.
-/
import RelayHub.Proofs.Hub.Answer
import RelayHub.Proofs.Hub.Authentic
import RelayHub.Proofs.Relay.Verified

set_option autoImplicit false

namespace RelayHub

open Script Deed RelayHub.Action Json

variable {σ τ : Type}

/-! ## Calls for an answer -/

/-- The call of a callback, if there is chaincode to call. -/
def CallbackDescriptor.call? (d : CallbackDescriptor) : Option Invocation :=
  if d.isActionable then some ⟨d.chaincode, d.function, d.args.map Utf8.encode⟩ else none

/-- The call of the callback of a payload, if it has one to call. -/
def InvokePayload.callbackCall? (p : InvokePayload) : Option Invocation :=
  p.callback.bind CallbackDescriptor.call?

namespace Relay

variable {relay : Relay} {q : CrossChainRequest} {r : HubResponse}

/-- For an answer the relay tries these calls and no others, carries them out in
order, and all of them in the end. -/
def Makes (relay : Relay) (q : CrossChainRequest) (r : HubResponse) (calls : List Invocation) :
    Prop :=
  ∀ past rest, Leads (relay.applyResult q r) past rest →
    (∀ t ∈ past, ∃ call ∈ calls, t.op = .invoke call) ∧ carriedOut past <+: calls ∧
      (rest = .done () → carriedOut past = calls)

/-- A response with the callback of a payload asks for the call of that
callback. -/
theorem callbackCall?_eq {p : InvokePayload}
    (h : r.callback = p.callback.map CallbackDescriptor.codec.write) :
    callbackCall? r = p.callbackCall? := by
  unfold callbackCall? InvokePayload.callbackCall?
  rw [HubResponse.callbackDescriptor_eq h]
  cases p.callback <;> rfl

end Relay

/-! ## Answers of a hub -/

/-- A response that an executor gives to a request, in some state. -/
def HubExecutor.Answers (x : HubExecutor τ) (q : HubRequest) (r : HubResponse) : Prop :=
  ∃ s, ((x.execute q).perform s).1 = .ok r

namespace HubExecutor.Answers

variable {x : HubExecutor τ} {q : HubRequest} {r : HubResponse}

/-- The payload of an answer is read as a contract's answer, and the message
that goes with it says whether that is a success. -/
theorem payload (h : x.Answers q r) :
    ∃ contract, ContractResponse.codec.decode r.payload = .ok contract ∧
      (r.errorMessage = "" ↔ contract.status = Contract.statusOk) := by
  obtain ⟨s, hs⟩ := h
  obtain ⟨p, outcome, -, hrespond⟩ := of_execute_ok hs
  obtain ⟨hr, -⟩ := of_respond_ok hrespond
  rw [hr]
  exact ⟨_, ContractResponse.codec_faithful.decode_write _, answer_message_eq_empty_iff outcome⟩

/-- The callback of an answer is that of the request's payload. -/
theorem callback (h : x.Answers q r) {p : InvokePayload}
    (hp : InvokePayload.decode q.payload = .ok p) :
    r.callback = p.callback.map CallbackDescriptor.codec.write := by
  obtain ⟨s, hs⟩ := h
  obtain ⟨p', outcome, haccept, hrespond⟩ := of_execute_ok hs
  obtain ⟨hr, -⟩ := of_respond_ok hrespond
  have hsame : p' = p := Except.ok.inj ((of_accept_ok haccept).2.2.2.symm.trans hp)
  rw [hr, hsame]

end HubExecutor.Answers

/-- What a hub signs: the payload of an answer that it gives, and that of a request without
a signer that it sends. -/
inductive HubService.Signs (hub : HubService τ) : Bytes → Prop where
  | answer {q : HubRequest} {r : HubResponse} (h : hub.executor.Answers q r) : hub.Signs r.payload
  | request {q sent : HubRequest} (hsigner : q.signer = []) (h : hub.client.signed q = .ok sent) :
      hub.Signs sent.payload

/-! ## Accepted answers -/

/-- Of what a hub has signed, the payload of an answer is read as a contract's answer. -/
theorem genuine_of_signs {hub : HubService τ} {payload : Bytes} (h : hub.Signs payload) :
    (∃ q r, hub.executor.Answers q r ∧ r.payload = payload ∧
        ∃ contract, ContractResponse.codec.decode payload = .ok contract) ∨
      ∃ q sent, q.signer = [] ∧ hub.client.signed q = .ok sent ∧ sent.payload = payload := by
  cases h with
  | answer hanswer =>
    obtain ⟨contract, hread, -⟩ := hanswer.payload
    exact .inl ⟨_, _, hanswer, rfl, contract, hread⟩
  | request hsigner hsigned => exact .inr ⟨_, _, hsigner, hsigned, rfl⟩

/-- What a client has accepted as the answer to a request with a payload, when this is the
destination's hub. -/
structure Relay.AsAsked (relay : Relay) (c : HubClient σ) (hub : HubService τ)
    (q : CrossChainRequest) (p : InvokePayload) (r : HubResponse) : Prop where
  /-- It answers the request. -/
  matched : r.origin = q.origin ∧ r.destination = q.destination ∧
    r.transactionId = q.transactionId ∧ r.stepId = q.stepId
  /-- The destination has signed its payload. -/
  signed : c.signatures.verify q.destination r.signer r.payload = .ok true
  /-- The payload is that of an answer of the destination's hub, and then it is a contract's
  answer; or it is that of a request that this hub has signed. -/
  genuine : (∃ q' r', hub.executor.Answers q' r' ∧ r'.payload = r.payload ∧
      ∃ contract, ContractResponse.codec.decode r.payload = .ok contract) ∨
    ∃ q' sent, q'.signer = [] ∧ hub.client.signed q' = .ok sent ∧ sent.payload = r.payload
  /-- If the message came with the payload in an answer, it is empty just if the contract's
  answer is a success. -/
  recorded : ∀ q' r', hub.executor.Answers q' r' → r'.payload = r.payload →
    ∃ contract, ContractResponse.codec.decode r.payload = .ok contract ∧
      (r'.errorMessage = r.errorMessage →
        (r.errorMessage = "" ↔ contract.status = Contract.statusOk))
  /-- The relay records the payload with its signature, and makes the call of the callback, if
  it has chaincode to call. -/
  called : relay.Makes q r
    (⟨relay.router, "ChainCodeInvokeResult",
        [q.origin.bytes, q.destination.bytes, Utf8.encode q.transactionId, Utf8.encode q.stepId,
         r.payload, r.signer, Utf8.encode r.errorMessage]⟩ :: (callbackCall? r).toList)
  /-- If the callback is that of an answer to the payload of the request, it is the payload's
  own. -/
  callback : ∀ q' r', hub.executor.Answers q' r' → q'.payload = q.payload →
    r'.callback = r.callback → callbackCall? r = p.callbackCall?

/-- Whatever the transport does, as long as nobody else signs for the destination: an
accepted answer records what the destination has signed, and its callback and its message
are as asked and as signed if they arrive as they were sent. -/
theorem Relay.accepted_answers_are_as_asked (relay : Relay) {c : HubClient σ} {hub : HubService τ}
    {q : CrossChainRequest} {p : InvokePayload} {r : HubResponse} {s : σ}
    (hp : InvokePayload.decode q.payload = .ok p) (haccepted : ((c.dispatch q).perform s).1 = .ok r)
    (hgenuine : c.signatures.verify q.destination r.signer r.payload = .ok true →
      hub.Signs r.payload) :
    relay.AsAsked c hub q p r := by
  obtain ⟨hdestination, horigin, htransaction, hstep, hverified⟩ := HubClient.of_invoke_ok haccepted
  exact {
    matched := ⟨horigin, hdestination, htransaction, hstep⟩
    signed := hverified
    genuine := genuine_of_signs (hgenuine hverified)
    recorded := by
      intro q' r' hanswer hpayload
      obtain ⟨contract, hread, hempty⟩ := hanswer.payload
      rw [hpayload] at hread
      exact ⟨contract, hread, fun hmessage => hmessage ▸ hempty⟩
    called := fun _ _ => of_leads_applyResult
    callback := by
      intro q' r' hanswer hpayload hcallback
      refine callbackCall?_eq ?_
      rw [← hcallback]
      exact hanswer.callback (hpayload ▸ hp) }

/-! ### A request with a callback

The chain that asks wants its own chaincode to be told. The hub of the other
chain answers, and its answer is let through, or altered on the way; or what comes
back is a request that the other hub once sent. -/

namespace Pair

/-- A callback to chaincode of the chain that asks. -/
def audit : CallbackDescriptor := ⟨"audit", "Record", ["CAR1", "done"]⟩

/-- A payload with this callback. -/
def auditPayload : InvokePayload := ⟨none, "fabcar", "QueryCar", ["CAR1"], some audit⟩

/-- The request, found on the chain. -/
def auditRequest : CrossChainRequest := asked auditPayload.encode [1]

/-- The request as it arrives at the other hub, with the signature of its chain. -/
def auditSigned : HubRequest :=
  { signedRequest with
    payload := auditPayload.encode
    signer := Bytes.ofNat 64
      0x263f19530fb7701bfdd03d2e630edf4de7b66db0300fd67b6bec23ae3be32c13b145613b7bacd2c1e0bab6f91cd74c437a293539dcbcac3579f7e5310990ecf5 }

/-- A ledger that knows of a car. -/
def carLedger : MemoryLedger :=
  ⟨[(chainB, (Chain.new "router" "proxy").deploy "fabcar" fun _ _ => .ok car.payload)]⟩

/-- The hub of the other chain, with its two sides. -/
def serviceB : HubService MemoryLedger where
  executor := hubB .standard
  client := ⟨(hubB .standard).signatures, .loopback (hubB .standard), pure 1⟩

theorem serviceB_answers : serviceB.executor.Answers auditSigned (carAnswer (some audit)) :=
  ⟨carLedger, by decide +kernel⟩

/-- A callback that the chain has not asked for. -/
def paying : CallbackDescriptor := ⟨"bank", "Pay", ["nobody"]⟩

/-- The answer with another callback and with an error message. -/
def alteredAnswer : HubResponse :=
  { carAnswer (some paying) with errorMessage := "no such car" }

/-- A request of the other chain. -/
def askingBack : HubRequest where
  origin := chainB
  destination := chainA
  transactionId := "tx-2"
  stepId := "1"
  payload := InvokePayload.encode ⟨none, "bank", "Pay", ["nobody"], none⟩
  signer := []
  timestamp := 1

/-- The request as the other hub sends it. -/
def askingBackSigned : HubRequest :=
  { askingBack with
    signer := Bytes.ofNat 64
      0x4a1adf1953dafd89d683bdf447115eba77dd9a14b7eca8a5df95f65b942229512a6d4d83331ab6a827e8f69bed525eca1943344cd9b30c9e1390067f8680589f }

theorem serviceB_signs : serviceB.client.signed askingBack = .ok askingBackSigned := by
  decide +kernel

/-- The request in place of the answer. -/
def replayedAnswer : HubResponse :=
  { carAnswer (some audit) with
    payload := askingBackSigned.payload
    signer := askingBackSigned.signer }

/-- The client of the chain that asks accepts what answers the request with a signature of the
other chain. -/
theorem clientA_accepts {answer : HubResponse}
    (hids : answer.destination = chainB ∧ answer.origin = chainA ∧ answer.transactionId = "tx-1" ∧
      answer.stepId = "1")
    (hverified : ((trustA .standard).signatures .standard).verify chainB answer.signer answer.payload
      = .ok true) :
    (((clientA answer).dispatch auditRequest).perform (start auditPayload.encode [1])).1
      = .ok answer := by
  -- The request has a signer, so it is sent as it is, with the time.
  have hsigned : (clientA (σ := Bench) answer).signed (.ofRequest auditRequest)
      = .ok (.ofRequest auditRequest) := rfl
  have hsent : ∀ q s, ((clientA (σ := Bench) answer).send q).perform s = (.ok answer, s) :=
    fun q s => HubClient.send_once fun e he => by cases he
  have hobjection : (clientA (σ := Bench) answer).objection?
      { HubRequest.ofRequest auditRequest with timestamp := 1 } answer = none :=
    HubClient.objection_eq_none_iff.2 ⟨hids.1, hids.2.1, hids.2.2.1, hids.2.2.2, hverified⟩
  have hstamped : (clientA (σ := Bench) answer).stamped (.ofRequest auditRequest)
      (start auditPayload.encode [1])
      = ({ HubRequest.ofRequest auditRequest with timestamp := 1 },
          start auditPayload.encode [1]) := rfl
  rw [HubClient.dispatch, HubClient.invoke_perform, hsigned]
  dsimp only
  rw [hstamped]
  dsimp only
  rw [hsent]
  dsimp only
  rw [hobjection]

theorem verify_car :
    ((trustA .standard).signatures .standard).verify chainB carSigner
      (ContractResponse.codec.write car) = .ok true := by
  decide +kernel

theorem verify_askingBack :
    ((trustA .standard).signatures .standard).verify chainB askingBackSigned.signer
      askingBackSigned.payload = .ok true := by
  decide +kernel

end Pair

open Pair

/-- The answer of a car is recorded as it is, and its callback is the one that was asked for.
A request that is sent back in its place is recorded as it is, too. -/
theorem Relay.car_is_recorded_as_asked :
    InvokePayload.decode auditRequest.payload = .ok auditPayload ∧
      relayA.AsAsked (clientA (σ := Bench) (carAnswer (some audit))) serviceB auditRequest
        auditPayload (carAnswer (some audit)) ∧
      callbackCall? (carAnswer (some audit))
        = some ⟨"audit", "Record", [Utf8.encode "CAR1", Utf8.encode "done"]⟩ ∧
      relayA.AsAsked (clientA (σ := Bench) replayedAnswer) serviceB auditRequest auditPayload
        replayedAnswer := by
  have hread : InvokePayload.decode auditRequest.payload = .ok auditPayload :=
    InvokePayload.decode_encode auditPayload
  have haccepted : (((clientA (carAnswer (some audit))).dispatch auditRequest).perform
      (start auditPayload.encode [1])).1 = .ok (carAnswer (some audit)) :=
    clientA_accepts ⟨rfl, rfl, rfl, rfl⟩ verify_car
  have hreplayed : (((clientA replayedAnswer).dispatch auditRequest).perform
      (start auditPayload.encode [1])).1 = .ok replayedAnswer :=
    clientA_accepts ⟨rfl, rfl, rfl, rfl⟩ verify_askingBack
  have hasked : relayA.AsAsked (clientA (σ := Bench) (carAnswer (some audit))) serviceB
      auditRequest auditPayload (carAnswer (some audit)) :=
    accepted_answers_are_as_asked relayA hread haccepted fun _ => .answer serviceB_answers
  exact ⟨hread, hasked, hasked.callback _ _ serviceB_answers rfl rfl,
    accepted_answers_are_as_asked relayA hread hreplayed fun _ => .request rfl serviceB_signs⟩

/-- An answer that is altered on the way is accepted all the same: its payload
is signed and says success, and yet the relay records an error message and calls
chaincode that the request does not name. And a request of the other chain is accepted
in place of an answer, though its payload is no contract's answer at all. -/
theorem Relay.altered_answer_is_accepted :
    InvokePayload.decode auditRequest.payload = .ok auditPayload ∧
      auditPayload.callback = some audit ∧
      serviceB.executor.Answers auditSigned
        { alteredAnswer with
          callback := some (CallbackDescriptor.codec.write audit)
          errorMessage := "" } ∧
      (((clientA alteredAnswer).dispatch auditRequest).perform (start auditPayload.encode [1])).1
        = .ok alteredAnswer ∧
      ContractResponse.codec.decode alteredAnswer.payload = .ok car ∧
      car.status = Contract.statusOk ∧ alteredAnswer.errorMessage ≠ "" ∧
      relayA.callsFor auditRequest alteredAnswer
        = [relayA.resultCall auditRequest alteredAnswer, ⟨"bank", "Pay", [Utf8.encode "nobody"]⟩] ∧
      (relayA.resultCall auditRequest alteredAnswer).args.getLast?
        = some (Utf8.encode "no such car") ∧
      serviceB.client.signed askingBack = .ok askingBackSigned ∧
      (((clientA replayedAnswer).dispatch auditRequest).perform (start auditPayload.encode [1])).1
        = .ok replayedAnswer ∧
      replayedAnswer.payload = askingBackSigned.payload ∧
      (ContractResponse.codec.decode replayedAnswer.payload).toOption = none :=
  ⟨InvokePayload.decode_encode auditPayload, rfl, serviceB_answers,
    clientA_accepts ⟨rfl, rfl, rfl, rfl⟩ verify_car,
    ContractResponse.codec_faithful.decode_write car, rfl, by decide, by decide +kernel, rfl,
    serviceB_signs, clientA_accepts ⟨rfl, rfl, rfl, rfl⟩ verify_askingBack, rfl, by decide +kernel⟩

end RelayHub
