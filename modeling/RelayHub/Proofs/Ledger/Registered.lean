/-
A request that the routing contract registers can be answered under its own name.

The contract names a request by texts that it reads from bytes as well as it can,
flaws and all; whoever follows the chain reads the same bytes strictly, and sends the
texts back as bytes. The two agree on every request that can be read strictly: its
texts have the bytes that were registered, so reading these bytes again gives the same
pair. From then on a result for the pair is taken whatever happens to the chain, and is
told when asked for, until there is a newer one.
-/
import RelayHub.Proofs.Json.Record
import RelayHub.Proofs.Ledger.Grammar
import RelayHub.Proofs.Ledger.Moves
import RelayHub.Proofs.Text.Hex

set_option autoImplicit false

namespace RelayHub

open Json
open RelayHub.Action

/-! ## Hashes -/

theorem Crypto.sha256Hex_ne_empty (message : Bytes) : sha256Hex message ≠ "" := by
  intro h
  have hlength := Hex.length_encode (sha256 message)
  change (Utf8.encode (sha256Hex message)).length = 2 * (sha256 message).length at hlength
  rw [h] at hlength
  have hempty : 0 = (sha256 message).length := Nat.eq_of_mul_eq_mul_left (by decide) hlength
  cases hempty

/-! ## Results as JSON -/

namespace RecordedResult

/-- Recorded results as JSON, which can be read as well. -/
def codec : Codec RecordedResult :=
  Codec.record "RecordedResult"
    (.more (.required "from" Codec.text) <|
     .more (.required "to" Codec.text) <|
     .more (.required "transaction_id" Codec.text) <|
     .more (.required "step_id" Codec.text) <|
     .more (.required "payload" Codec.text) <|
     .more (.required "signer" Codec.text) <|
     .more (.required "message" Codec.text) .none)
    (fun (origin, destination, transactionId, stepId, payload, signer, message, ()) =>
      ⟨origin, destination, ⟨transactionId, stepId⟩, payload, signer, message⟩)
    (fun r =>
      (r.origin, r.destination, r.key.transactionId, r.key.stepId, r.payload, r.signer,
       r.message, ()))

/-- What the contract tells of a result says all of it. -/
theorem decode_write (r : RecordedResult) : codec.decode r.write = .ok r := by
  have hfaithful : codec.Faithful :=
    Codec.record_faithful _
      (.required Codec.text_faithful (by decide) <|
       .required Codec.text_faithful (by decide) <|
       .required Codec.text_faithful (by decide) <|
       .required Codec.text_faithful (by decide) <|
       .required Codec.text_faithful (by decide) <|
       .required Codec.text_faithful (by decide) <|
       .required Codec.text_faithful (by decide) .none)
      fun _ => rfl
  exact hfaithful.decode_write r

end RecordedResult

/-! ## Calls for a pair -/

namespace StepKey

/-- A call that records a result for a pair. -/
def resultCall (key : StepKey) (router : String) (origin destination payload signer message : Bytes) :
    Invocation :=
  ⟨router, Contract.recordResult,
    [origin, destination, Utf8.encode key.transactionId, Utf8.encode key.stepId, payload, signer,
     message]⟩

/-- The call that asks for the result of a pair. -/
def queryCall (key : StepKey) (router : String) : Invocation :=
  ⟨router, Contract.queryResult, [Utf8.encode key.transactionId, Utf8.encode key.stepId]⟩

/-- The result that such a call records. -/
def resultOf (key : StepKey) (origin destination payload signer message : Bytes) : RecordedResult :=
  .read origin destination (Utf8.encode key.transactionId) (Utf8.encode key.stepId) payload signer
    message

@[simp] theorem resultOf_key (key : StepKey) (origin destination payload signer message : Bytes) :
    (key.resultOf origin destination payload signer message).key = key :=
  read_encode _ _

end StepKey

/-! ## Chains -/

namespace Chain

variable {c : Chain} {key : StepKey}

/-- The block that registers a request. -/
def requestBlock (c : Chain) (key : StepKey) (args : List Bytes) : RawBlock :=
  (c.entered key args).nextBlock [(c.entered key args).requestEnvelope key args]

theorem envelopes_requestBlock (args : List Bytes) :
    (c.requestBlock key args).envelopes = [(c.entered key args).requestEnvelope key args] := rfl

theorem args_requestEnvelope (args : List Bytes) :
    (c.requestEnvelope key args).args = Utf8.encode Contract.invoke :: args := rfl

theorem blocks_registering (args : List Bytes) :
    (c.registering key args).blocks = c.blocks ++ [c.requestBlock key args] := rfl

theorem router_registering (args : List Bytes) : (c.registering key args).router = c.router := rfl

/-- The transaction that registers a request is never passed over. -/
theorem invokes_requestEnvelope (args : List Bytes) : (c.requestEnvelope key args).Invokes :=
  ⟨⟨_, rfl, Crypto.sha256Hex_ne_empty _⟩, rfl⟩

theorem registered_registering (args : List Bytes) :
    ((c.registering key args).requests.lookup key).isSome := by
  change ((assign key args c.requests).lookup key).isSome
  rw [lookup_assign_self]
  rfl

theorem recorded_recording (r : RecordedResult) : (c.recording r).results.lookup r.key = some r :=
  lookup_assign_self _ _ _

/-- A result for a pair that is registered is recorded. -/
theorem call_resultCall (h : (c.requests.lookup key).isSome)
    (origin destination payload signer message : Bytes) :
    c.call (key.resultCall c.router origin destination payload signer message)
      = .ok (.ok [], c.recording (key.resultOf origin destination payload signer message)) := by
  have hknown : (c.requests.lookup
      (key.resultOf origin destination payload signer message).key).isSome := by
    rwa [StepKey.resultOf_key]
  have hcontract :
      (key.resultCall c.router origin destination payload signer message).contract = c.router := rfl
  rw [call, if_pos hcontract]
  exact if_pos hknown

/-- The result of a pair is told when it is asked for. -/
theorem call_queryCall {r : RecordedResult} (h : c.results.lookup key = some r) :
    c.call (key.queryCall c.router) = .ok (.ok r.write, c) := by
  have hlookup : c.results.lookup ⟨Utf8.decodeLossy (Utf8.encode key.transactionId),
      Utf8.decodeLossy (Utf8.encode key.stepId)⟩ = some r := by
    rw [Utf8.decodeLossy_encode, Utf8.decodeLossy_encode]
    exact h
  have hcontract : (key.queryCall c.router).contract = c.router := rfl
  rw [call, if_pos hcontract]
  have hinvoke : Contract.queryResult ≠ Contract.invoke := by decide
  have hrecord : Contract.queryResult ≠ Contract.recordResult := by decide
  simp only [callRouter, StepKey.queryCall, if_neg hinvoke, if_neg hrecord, if_true, hlookup]

end Chain

/-! ## Ledgers -/

namespace MemoryLedger

/-- The result that is recorded for a pair on a chain. -/
def recorded? (chain : ChainId) (key : StepKey) (l : MemoryLedger) : Option RecordedResult :=
  (l.chain? chain).bind (·.results.lookup key)

/-- The next call on a chain is to fail. -/
def Failing (chain : ChainId) : MemoryLedger → Prop :=
  Hosts chain fun c => 0 < c.failingInvokes

/-- A call on a chain is answered like this, unless it is to fail. -/
structure Answers (chain : ChainId) (call : Invocation) (answer : ContractResponse)
    (l : MemoryLedger) : Prop where
  calm : ¬ l.Failing chain → ((ledger.invoke chain call).perform l).1 = .ok answer
  failing : l.Failing chain →
    ((ledger.invoke chain call).perform l).1 = .error (.unavailable "injected invoke failure")

/-- A ledger that tells this result of a pair, to who looks at its state and to who
calls the routing contract. -/
structure Tells (chain : ChainId) (router : String) (key : StepKey) (r : RecordedResult)
    (l : MemoryLedger) : Prop where
  recorded : l.recorded? chain key = some r
  answered : l.Answers chain (key.queryCall router) (.ok r.write)

/-- A ledger that takes a result for a pair and then tells it: in all that follows until
there is a newer one, and then the newer one. -/
structure Settles (chain : ChainId) (router : String) (key : StepKey) (l : MemoryLedger) : Prop where
  takes (origin destination payload signer message : Bytes) :
    l.Answers chain (key.resultCall router origin destination payload signer message) (.ok [])
  tells (origin destination payload signer message : Bytes) (l' : MemoryLedger) :
    (ledger.invoke chain (key.resultCall router origin destination payload signer message)).perform l
      = (.ok (.ok []), l') →
    (∀ moves : List Move, (∀ m ∈ moves, m.Within chain (¬ ·.Records router key)) →
      (run moves l').Tells chain router key
        (key.resultOf origin destination payload signer message)) ∧
    (∀ moves : List Move, (∀ m ∈ moves, m.Within chain fun _ => True) →
      ∃ newer, (run moves l').Tells chain router key newer)

variable {chain : ChainId} {router : String} {key : StepKey} {l : MemoryLedger} {c : Chain}

theorem invoke_perform (h : l.chain? chain = some c) (call : Invocation) :
    (ledger.invoke chain call).perform l
      = (((Chain.invoke call).perform c).1, l.set chain ((Chain.invoke call).perform c).2) :=
  onChain_perform h (Chain.invoke call)

theorem failing_iff (h : l.chain? chain = some c) : l.Failing chain ↔ 0 < c.failingInvokes := by
  constructor
  · rintro ⟨c', hc', hfailing⟩
    obtain rfl := Option.some.inj (h.symm.trans hc')
    exact hfailing
  · exact fun hfailing => ⟨c, h, hfailing⟩

/-- What the chain's contracts answer is answered. -/
theorem answers_of_call (h : l.chain? chain = some c) {call : Invocation} {c' : Chain}
    {answer : ContractResponse} (hcall : c.call call = .ok (answer, c')) :
    l.Answers chain call answer where
  calm hcalm := by
    rw [failing_iff h] at hcalm
    rw [invoke_perform h, Chain.invoke_of_call hcalm hcall]
  failing hfailing := by
    rw [failing_iff h] at hfailing
    rw [invoke_perform h, Chain.invoke_of_failing hfailing]

/-- A pair is registered with a chain's routing contract. -/
def Registered (chain : ChainId) (router : String) (key : StepKey) : MemoryLedger → Prop :=
  Hosts chain fun c => c.router = router ∧ (c.requests.lookup key).isSome

/-- A result of a pair is recorded with a chain's routing contract. -/
def Recorded (chain : ChainId) (router : String) (key : StepKey) (r : RecordedResult) :
    MemoryLedger → Prop :=
  Hosts chain fun c => c.router = router ∧ c.results.lookup key = some r

theorem Recorded.tells {r : RecordedResult} (h : l.Recorded chain router key r) :
    l.Tells chain router key r := by
  obtain ⟨c, hc, rfl, hr⟩ := h
  exact ⟨by rw [recorded?, hc]; exact hr, answers_of_call hc (Chain.call_queryCall hr)⟩

theorem Registered.after {moves : List Move} (h : l.Registered chain router key)
    (hmoves : ∀ m ∈ moves, m.Within chain fun _ => True) :
    (run moves l).Registered chain router key := by
  refine Hosts.after (fun m c _ hc => ?_) hmoves h
  exact ⟨(Chain.make_router chain m c).trans hc.1, Chain.make_registered chain m hc.2⟩

/-- The result stays, as long as no other is recorded for the pair. -/
theorem Recorded.after_quiet {moves : List Move} {r : RecordedResult}
    (h : l.Recorded chain router key r)
    (hmoves : ∀ m ∈ moves, m.Within chain (¬ ·.Records router key)) :
    (run moves l).Recorded chain router key r := by
  refine Hosts.after (fun m c hquiet hc => ⟨(Chain.make_router chain m c).trans hc.1, ?_⟩) hmoves h
  obtain ⟨rfl, hr⟩ := hc
  exact (Chain.make_recorded chain m hr).resolve_right fun hnewer => hquiet hnewer.1

/-- There is always a result, once there is one. -/
theorem Recorded.after {moves : List Move} {r : RecordedResult} (h : l.Recorded chain router key r)
    (hmoves : ∀ m ∈ moves, m.Within chain fun _ => True) :
    ∃ newer, (run moves l).Recorded chain router key newer := by
  have hsome : l.Hosts chain fun c =>
      c.router = router ∧ ∃ newer, c.results.lookup key = some newer := by
    obtain ⟨c, hc, hrouter, hr⟩ := h
    exact ⟨c, hc, hrouter, r, hr⟩
  have hkept (m : Chain.Move) (c : Chain) (_ : True)
      (hc : c.router = router ∧ ∃ newer, c.results.lookup key = some newer) :
      (m.make chain c).router = router ∧
        ∃ newer, (m.make chain c).results.lookup key = some newer := by
    obtain ⟨hrouter, newer, hnewer⟩ := hc
    refine ⟨(Chain.make_router chain m c).trans hrouter, ?_⟩
    rcases Chain.make_recorded chain m hnewer with hsame | ⟨_, hnewest⟩
    · exact ⟨newer, hsame⟩
    · exact hnewest
  obtain ⟨c, hc, hrouter, newer, hnewer⟩ := Hosts.after hkept hmoves hsome
  exact ⟨newer, c, hc, hrouter, hnewer⟩

/-- A registered pair can be answered. -/
theorem Registered.settles (h : l.Registered chain router key) : l.Settles chain router key := by
  obtain ⟨c, hc, rfl, hregistered⟩ := h
  refine ⟨fun origin destination payload signer message =>
    answers_of_call hc (Chain.call_resultCall hregistered ..), ?_⟩
  intro origin destination payload signer message l' hdone
  have hcalm : ¬ 0 < c.failingInvokes := by
    intro hfailing
    rw [invoke_perform hc, Chain.invoke_of_failing hfailing] at hdone
    cases congrArg Prod.fst hdone
  have hrecorded : l'.Recorded chain c.router key
      (key.resultOf origin destination payload signer message) := by
    rw [invoke_perform hc, Chain.invoke_of_call hcalm (Chain.call_resultCall hregistered ..)] at hdone
    obtain rfl := congrArg Prod.snd hdone
    refine ⟨_, chain?_set _ _ _, rfl, ?_⟩
    have hlookup := Chain.recorded_recording (c := c)
      (key.resultOf origin destination payload signer message)
    rwa [StepKey.resultOf_key] at hlookup
  refine ⟨fun moves hmoves => (hrecorded.after_quiet hmoves).tells, fun moves hmoves => ?_⟩
  obtain ⟨newer, hnewer⟩ := hrecorded.after hmoves
  exact ⟨newer, hnewer.tells⟩

/-- What a call that registers a request leaves: one more block, with the transaction
that holds the arguments, and the pair that they name is registered. -/
theorem of_register {l' : MemoryLedger} {answer : ContractResponse}
    {origin destination transactionId stepId payload signer : Bytes}
    (hrouter : l.router? chain = some router)
    (hdone : (ledger.invoke chain ⟨router, Contract.invoke,
        [origin, destination, transactionId, stepId, payload, signer]⟩).perform l
      = (.ok answer, l')) :
    (∃ b e, l'.blocks chain = l.blocks chain ++ [b] ∧ b.envelopes = [e] ∧ e.Invokes ∧
      e.args = [Utf8.encode Contract.invoke, origin, destination, transactionId, stepId, payload,
        signer]) ∧
      l'.Registered chain router (.read transactionId stepId) := by
  obtain ⟨c, hc, rfl⟩ := Option.map_eq_some_iff.1 hrouter
  rw [invoke_perform hc] at hdone
  obtain ⟨hanswer, rfl⟩ := Prod.mk.inj hdone
  obtain ⟨c', hcalled, hleft⟩ := Chain.of_invoke_ok hanswer
  have hblocks : l.blocks chain = c.blocks := by rw [blocks, hc]; rfl
  cases hcalled with
  | registers hi _ =>
    cases hi
    refine ⟨⟨c.requestBlock (.read transactionId stepId)
        [origin, destination, transactionId, stepId, payload, signer], _, ?_,
      Chain.envelopes_requestBlock _, Chain.invokes_requestEnvelope _,
      Chain.args_requestEnvelope _⟩, _, chain?_set _ _ _, ?_⟩
    · rw [blocks_set, hleft, hblocks, Chain.noting_blocks]
      exact Chain.blocks_registering _
    · rw [hleft]
      simp only [Chain.noting_router, Chain.noting_requests]
      exact ⟨Chain.router_registering _, Chain.registered_registering _⟩
  | records hi _ =>
    have hfunction : Contract.invoke ≠ Contract.recordResult := by decide
    exact absurd (congrArg Invocation.function hi) hfunction
  | answers hquery =>
    have hfunction : Contract.invoke ≠ Contract.queryResult := by decide
    exact absurd (hquery rfl) hfunction

/-- A request that the routing contract registers stands in one new block, as the only
transaction there. It is not passed over, and if it is read as a request, then the request
has the six arguments, and at all later times its pair is one for which a result is taken
and then told. -/
theorem registered_request_settles {l' : MemoryLedger} {answer : ContractResponse}
    {origin destination transactionId stepId payload signer : Bytes}
    (hrouter : l.router? chain = some router)
    (hdone : (ledger.invoke chain ⟨router, Contract.invoke,
        [origin, destination, transactionId, stepId, payload, signer]⟩).perform l
      = (.ok answer, l')) :
    ∃ b e, l'.blocks chain = l.blocks chain ++ [b] ∧ b.envelopes = [e] ∧
      e.request? b ≠ .ok none ∧
      ∀ q, e.request? b = .ok (some q) →
        [origin, destination, transactionId, stepId, payload, signer]
          = [q.origin.bytes, q.destination.bytes, Utf8.encode q.transactionId,
              Utf8.encode q.stepId, q.payload, q.signer] ∧
        ∀ moves : List Move, (∀ m ∈ moves, m.Within chain fun _ => True) →
          (run moves l').Settles chain router ⟨q.transactionId, q.stepId⟩ := by
  obtain ⟨⟨b, e, hblocks, henvelopes, hinvokes, hargs⟩, hregistered⟩ := of_register hrouter hdone
  refine ⟨b, e, hblocks, henvelopes, fun hnone => Envelope.request?_eq_none_iff.1 hnone hinvokes, ?_⟩
  intro q hq
  have hsame := hargs.symm.trans (Envelope.request?_eq_request_iff.1 hq).args
  obtain ⟨rfl, rfl, rfl, rfl, rfl, rfl⟩ : origin = q.origin.bytes ∧ destination = q.destination.bytes ∧
      transactionId = Utf8.encode q.transactionId ∧ stepId = Utf8.encode q.stepId ∧
      payload = q.payload ∧ signer = q.signer := by
    simpa only [List.cons.injEq, true_and, and_true] using hsame
  refine ⟨rfl, fun moves hmoves => ?_⟩
  rw [StepKey.read_encode] at hregistered
  exact (hregistered.after hmoves).settles

/-- A ledger with one chain. -/
def ledgerOfOne : MemoryLedger :=
  empty.addChain ⟨"A"⟩ "router" "proxy"

/-- A call that registers a request of this chain. -/
def registeringCall : Invocation :=
  ⟨"router", Contract.invoke,
    [Utf8.encode "A", Utf8.encode "B", Utf8.encode "tx", Utf8.encode "0", Utf8.encode "\x7b\x7d", []]⟩

/-- The ledger with the request registered. -/
def ledgerOfOneRequest : MemoryLedger :=
  ((ledger.invoke ⟨"A"⟩ registeringCall).perform ledgerOfOne).2

/-- The request is read from its block, and its pair can be answered. -/
theorem ledgerOfOneRequest_settles :
    ledgerOfOne.router? ⟨"A"⟩ = some "router" ∧
      (ledger.invoke ⟨"A"⟩ registeringCall).perform ledgerOfOne
        = (.ok (.ok (Utf8.encode "tx")), ledgerOfOneRequest) ∧
      ∃ b e q, ledgerOfOneRequest.blocks ⟨"A"⟩ = [b] ∧ b.envelopes = [e] ∧
        e.request? b = .ok (some q) ∧
        ledgerOfOneRequest.Settles ⟨"A"⟩ "router" ⟨"tx", "0"⟩ := by
  have hrouter : ledgerOfOne.router? ⟨"A"⟩ = some "router" := rfl
  have hdone : (ledger.invoke ⟨"A"⟩ registeringCall).perform ledgerOfOne
      = (.ok (.ok (Utf8.encode "tx")), ledgerOfOneRequest) := Prod.ext rfl rfl
  obtain ⟨b, e, hblocks, henvelopes, hread, hsettles⟩ := registered_request_settles hrouter hdone
  have hall : (ledgerOfOneRequest.blocks ⟨"A"⟩).map (fun b => b.envelopes.map Envelope.args)
      = [[Utf8.encode Contract.invoke :: registeringCall.args]] := rfl
  rw [hblocks] at hall
  have hargs : e.args = Utf8.encode Contract.invoke :: registeringCall.args := by
    have hone : [[e.args]] = [[Utf8.encode Contract.invoke :: registeringCall.args]] := by
      rw [← hall]
      change _ = [b.envelopes.map Envelope.args]
      rw [henvelopes]
      rfl
    exact (List.cons.inj (List.cons.inj hone).1).1
  have hinvokes : e.Invokes :=
    Classical.byContradiction fun hnot => hread (Envelope.request?_eq_none_iff.2 hnot)
  obtain ⟨⟨txHash, htx, hhash⟩, -⟩ := hinvokes
  have hA : "A" ≠ "" := by decide
  have hB : "B" ≠ "" := by decide
  have htransaction : "tx" ≠ "" := by decide
  have hq : e.request? b = .ok (some ⟨⟨"A"⟩, ⟨"B"⟩, "tx", "0", Utf8.encode "\x7b\x7d", [], 0,
      ⟨txHash, b.number, b.hash, e.raw⟩⟩) :=
    Envelope.request?_eq_request_iff.2
      ⟨hargs, hA, hB, htransaction, rfl, ⟨htx, hhash⟩, rfl⟩
  exact ⟨hrouter, hdone, b, e, _, hblocks, henvelopes, hq, (hsettles _ hq).2 [] nofun⟩

end MemoryLedger

end RelayHub
