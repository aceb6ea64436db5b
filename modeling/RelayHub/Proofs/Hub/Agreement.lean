/-
Two honest hubs agree on a request.

The hub of the chain that asks holds that chain's secret and knows the key of
the other chain, and the hub of the chain that is asked holds its secret and
knows the key of the first; one hub may host both. Then each step of a request
goes well, whatever the payload says and whatever the ledger does with the call:
the request is signed, the called side accepts it and makes its call, the answer
is signed, and the calling side accepts that with the first call it makes.
-/
import RelayHub.Proofs.Hub.Answer
import RelayHub.Proofs.Hub.Authentic

set_option autoImplicit false

namespace RelayHub

open RelayHub.Action Json

variable {σ τ : Type}

/-! ## From one hub to the other -/

/-- A message for a request: the request as it is, with a signature and a
time. -/
structure HubRequest.IsFor (m : HubRequest) (q : CrossChainRequest) : Prop where
  origin : m.origin = q.origin
  destination : m.destination = q.destination
  transactionId : m.transactionId = q.transactionId
  stepId : m.stepId = q.stepId
  payload : m.payload = q.payload
  signed : m.signer.length = Crypto.signatureLength

/-- The ways in which the messages for a request get from a client to an
executor: to the service of another hub, or within one hub, whose connector may
know of other hubs as well. -/
inductive HubClient.Joined (c : HubClient σ) (x : HubExecutor σ) (q : CrossChainRequest) :
    Prop where
  | beyond (other : HubClient σ) (hforeign : x.registry.isLocal q.origin = false)
      (hreaches : ∀ m s, m.IsFor q → (c.call m).perform s
        = (HubService.invoke ⟨x, other⟩ m).perform s)
  | within (hconnector : c.connector = .loopback x)
  | byRole (outer : Connector σ) (hconnector : c.connector = .byRole x.registry (.loopback x) outer)

/-- However a message gets to the executor, the call does what the executor does
with it. -/
theorem HubClient.Joined.call_perform {c : HubClient σ} {x : HubExecutor σ} {q : CrossChainRequest}
    (h : c.Joined x q) (hapart : q.origin ≠ q.destination)
    (hlocal : x.registry.isLocal q.destination = true) {m : HubRequest} (hm : m.IsFor q) (s : σ) :
    (c.call m).perform s = (x.execute m).perform s := by
  have hconnected : c.connector.connect m.destination = ofExcept (.ok x.execute) →
      (c.call m).perform s = (x.execute m).perform s := by
    intro hconnect
    rw [call, hconnect]
    rfl
  rw [← hm.destination] at hlocal
  cases h with
  | beyond other hforeign hreaches =>
    rw [hreaches m s hm, HubService.invoke, hm.origin, hm.destination, if_neg hapart,
      if_neg (by simp [hforeign])]
  | within hconnector =>
    refine hconnected ?_
    rw [hconnector, Connector.loopback_connect hlocal]
  | byRole outer hconnector =>
    refine hconnected ?_
    rw [hconnector, Connector.byRole_connect hlocal, Connector.loopback_connect hlocal]

/-! ## Honest hubs -/

/-- Two chains with honest hubs. The client speaks for the one and the executor
for the other: each has the secret of its own chain and knows the other one's
key, and the keys do what keys should do. -/
structure Honest (suite : Suite) (A B : ChainId) (keyA keyB : ChainKey) (c : HubClient τ)
    (x : HubExecutor σ) (contracts : LocalChain) : Prop where
  apart : A ≠ B
  signsA : keyA.Signs suite
  signsB : keyB.Signs suite
  clientKeys : ∃ t : TrustStore, c.signatures = t.signatures suite ∧ t.key? A = some keyA ∧
    t.Knows suite B keyB
  executorKeys : ∃ t : TrustStore, x.signatures = t.signatures suite ∧ t.key? B = some keyB ∧
    t.Knows suite A keyA
  hosts : x.registry.hosted B = .ok contracts

/-- A request of one chain to another with a payload that is to be carried out
there. It leaves the signing to its hub. -/
structure CrossChainRequest.Asks (q : CrossChainRequest) (A B : ChainId) (p : InvokePayload) :
    Prop where
  origin : q.origin = A
  destination : q.destination = B
  payload : q.payload = p.encode
  unsigned : q.signer = []
  channel : p.channel = none ∨ p.channel = some "" ∨ p.channel = some B.name

/-- A ledger call and a response that agree with a payload: the call says what
the payload says, and the response says what came of the call, with the
signature of the chain that was asked. -/
structure Agreed (suite : Suite) (B : ChainId) (keyB : ChainKey) (contracts : LocalChain)
    (p : InvokePayload) (call : LedgerCall) (r : HubResponse) : Prop where
  chain : call.chain = B
  contract : call.call.contract = contracts.proxy
  function : call.call.function = Contract.proxyCall
  args : ∃ json, call.call.args = [Utf8.encode p.chaincode, Utf8.encode p.function, json] ∧
    Codec.text.list.decode json = .ok p.args
  answered : ContractResponse.codec.decode r.payload = .ok (HubExecutor.answer call.outcome).1
  signed : (keyB.toPublic suite).verify suite r.signer r.payload = .ok true
  callback : r.callback = p.callback.map CallbackDescriptor.codec.write

/-- A client gets an answer that it accepts with the first call it makes. -/
structure HubClient.AcceptsAtOnce (c : HubClient τ) (q : CrossChainRequest) (s s' : τ)
    (r : HubResponse) : Prop where
  accepted : (c.dispatch q).perform s = (.ok r, s')
  once : ∃ signed, c.signed (.ofRequest q) = .ok signed ∧
    policy.run HubError.isDeadlineExceeded (c.call (c.stamped signed s).1) redials
        (c.stamped signed s).2
      = (⟨.ok r, true, [], 0⟩, s')

/-- A call that is answered is made once, and the answer is accepted if there is
nothing against it. -/
theorem HubClient.accepts_at_once {c : HubClient τ} {q : CrossChainRequest} {signed m : HubRequest}
    {s s₁ s' : τ} {r : HubResponse} (hsigned : c.signed (.ofRequest q) = .ok signed)
    (hstamped : c.stamped signed s = (m, s₁)) (hcall : (c.call m).perform s₁ = (.ok r, s'))
    (hobjection : c.objection? m r = none) : c.AcceptsAtOnce q s s' r := by
  have hanswered : ∀ e, ((c.call m).perform s₁).1 = .error e → e.isDeadlineExceeded = false := by
    intro e he
    rw [hcall] at he
    cases he
  refine ⟨?_, signed, hsigned, ?_⟩
  · rw [dispatch, invoke_perform, hsigned]
    dsimp only
    rw [hstamped]
    dsimp only
    rw [send_once hanswered, hcall]
    dsimp only
    rw [hobjection]
  · rw [hstamped]
    have honce := Delays.run_once hanswered policy.delays redials 0
    rw [hcall] at honce
    exact honce

theorem InvokePayload.encode_ne_nil (p : InvokePayload) : p.encode ≠ [] := by
  obtain ⟨b, tail, hwrite, -⟩ := InvokePayload.codec_faithful.opens p
  rw [encode, hwrite]
  simp

theorem ContractResponse.write_ne_nil (r : ContractResponse) :
    ContractResponse.codec.write r ≠ [] := by
  obtain ⟨b, tail, hwrite, -⟩ := ContractResponse.codec_faithful.opens r
  rw [hwrite]
  simp

/-- A channel that is absent, empty or the destination is the destination. -/
theorem HubExecutor.target_eq {m : HubRequest} {p : InvokePayload} {B : ChainId}
    (hm : m.destination = B)
    (hp : p.channel = none ∨ p.channel = some "" ∨ p.channel = some B.name) : target m p = B := by
  unfold target
  rcases hp with hp | hp | hp
  · rw [hp, hm]
  · rw [hp]
    exact hm
  · rw [hp]
    dsimp only
    split
    · exact hm
    · rfl

namespace Honest

variable {suite : Suite} {A B : ChainId} {keyA keyB : ChainKey} {c : HubClient τ}
  {x : HubExecutor σ} {contracts : LocalChain} {q : CrossChainRequest} {p : InvokePayload}
  {m : HubRequest}

section Steps

variable (h : Honest suite A B keyA keyB c x contracts) (hq : q.Asks A B p)
include h hq

/-! ### Step by step -/

/-- The request is signed. -/
theorem signed_ok : ∃ signer,
    c.signed (.ofRequest q) = .ok { HubRequest.ofRequest q with signer } ∧
      keyA.verify suite signer q.payload = .ok true := by
  obtain ⟨t, hsignatures, hkey, -⟩ := h.clientKeys
  have hpayload : q.payload ≠ [] := hq.payload ▸ p.encode_ne_nil
  obtain ⟨signer, hsign, hfits⟩ := TrustStore.sign_of_key hkey h.signsA hpayload
  have hown : c.signatures.sign (HubRequest.ofRequest q).origin (HubRequest.ofRequest q).payload
      = .ok signer := by
    change c.signatures.sign q.origin q.payload = _
    rw [hsignatures, hq.origin]
    exact hsign
  refine ⟨signer, ?_, hfits⟩
  rw [HubClient.signed, if_pos (by simp [HubRequest.ofRequest, hq.unsigned]), hown]

/-- The called side accepts it. -/
theorem accept_ok (hm : m.IsFor q) (hfits : keyA.verify suite m.signer q.payload = .ok true) :
    x.accept m = .ok p := by
  obtain ⟨t, hsignatures, -, hknows⟩ := h.executorKeys
  have hpayload : q.payload ≠ [] := hq.payload ▸ p.encode_ne_nil
  have hverify : x.signatures.verify A m.signer q.payload = .ok true := by
    rw [hsignatures]
    exact TrustStore.verify_of_knows hknows hpayload hfits
  rw [HubExecutor.accept_eq, hm.origin, hm.destination, hm.payload, hq.origin, hq.destination,
    if_neg h.apart, if_neg (by simp [Registry.isLocal_of_hosted h.hosts]),
    Signatures.objection_eq_none_iff.2 hverify, hq.payload, InvokePayload.decode_encode]
  rfl

/-- Whatever is to be answered, the answer is signed, and the calling side has
nothing against it. -/
theorem respond_ok (hm : m.IsFor q) (outcome : Except LedgerError ContractResponse) :
    ∃ r, x.respond m p (HubExecutor.answer outcome) = .ok r ∧ c.objection? m r = none ∧
      Agreed suite B keyB contracts p ⟨B, HubExecutor.proxyCall contracts p, outcome⟩ r := by
  obtain ⟨t, hsignatures, hkey, -⟩ := h.executorKeys
  obtain ⟨t', hsignatures', -, hknows⟩ := h.clientKeys
  have hpayload := (HubExecutor.answer outcome).1.write_ne_nil
  obtain ⟨signer, hsign, hfits⟩ := TrustStore.sign_of_key hkey h.signsB hpayload
  have hown : x.signatures.sign m.destination
      (ContractResponse.codec.write (HubExecutor.answer outcome).1) = .ok signer := by
    rw [hsignatures, hm.destination, hq.destination]
    exact hsign
  have hverify : c.signatures.verify m.destination signer
      (ContractResponse.codec.write (HubExecutor.answer outcome).1) = .ok true := by
    rw [hsignatures', hm.destination, hq.destination]
    exact TrustStore.verify_of_knows hknows hpayload hfits
  have hrespond := HubExecutor.respond.eq_def x m p (HubExecutor.answer outcome)
  dsimp only at hrespond
  rw [hown] at hrespond
  exact ⟨_, hrespond, HubClient.objection_eq_none_iff.2 ⟨rfl, rfl, rfl, rfl, hverify⟩, {
    chain := rfl
    contract := rfl
    function := rfl
    args := ⟨_, rfl, (Codec.list_faithful Codec.text_faithful).decode_write p.args⟩
    answered := ContractResponse.codec_faithful.decode_write _
    signed := hfits
    callback := rfl }⟩

/-- A message for the request, signed, leads to one call, and to an answer that
agrees with it. -/
theorem execute_ok (hm : m.IsFor q) (hfits : keyA.verify suite m.signer q.payload = .ok true)
    (s : σ) (calls : List LedgerCall) :
    ∃ s' call r, (x.noted.execute m).perform (s, calls) = (.ok r, s', calls ++ [call]) ∧
      c.objection? m r = none ∧ Agreed suite B keyB contracts p call r := by
  have haccept := h.accept_ok hq hm hfits
  have htarget := HubExecutor.target_eq (hm.destination.trans hq.destination) hq.channel
  rcases hinvoke : ((x.ledger B).invoke B (HubExecutor.proxyCall contracts p)).perform s
    with ⟨outcome, s'⟩
  have hcalls : x.callsMade m s = [⟨B, HubExecutor.proxyCall contracts p, outcome⟩] := by
    rw [HubExecutor.callsMade, HubExecutor.callFor, haccept]
    dsimp only
    rw [htarget, h.hosts, Option.toList_some, List.map_cons, List.map_nil, hinvoke]
  obtain ⟨r, hrespond, hobjection, hagreed⟩ := h.respond_ok hq hm outcome
  refine ⟨s', _, r, ?_, hobjection, hagreed⟩
  rw [HubExecutor.noted_execute, HubExecutor.execute_perform, haccept, hcalls]
  dsimp only
  rw [htarget, h.hosts]
  dsimp only
  rw [hinvoke, hrespond]

end Steps

/-! ### All of it -/

/-- The request is answered at once, its destination sees one call, and the
answer agrees with that. -/
theorem dispatch_ok {c : HubClient (σ × List LedgerCall)}
    (h : Honest suite A B keyA keyB c x contracts) (hq : q.Asks A B p)
    (hjoined : c.Joined x.noted q) (hclock : ∀ s, (c.now s).2.2 = s.2) (s : σ)
    (calls : List LedgerCall) :
    ∃ s' call r, c.AcceptsAtOnce q (s, calls) (s', calls ++ [call]) r ∧
      Agreed suite B keyB contracts p call r := by
  obtain ⟨signer, hsigned, hfits⟩ := h.signed_ok hq
  have hnotes : (c.stamped { HubRequest.ofRequest q with signer } (s, calls)).2.2 = calls := by
    unfold HubClient.stamped
    split
    · exact hclock (s, calls)
    · rfl
  have hstamp := HubClient.stamped_eq c { HubRequest.ofRequest q with signer } (s, calls)
  rcases hstamped : c.stamped { HubRequest.ofRequest q with signer } (s, calls) with ⟨m, s₁, calls₁⟩
  rw [hstamped] at hnotes hstamp
  dsimp only at hnotes hstamp
  subst hnotes
  have hm : m.IsFor q := by
    rw [hstamp]
    exact ⟨rfl, rfl, rfl, rfl, rfl, ChainKey.length_of_verify hfits⟩
  have hmfits : keyA.verify suite m.signer q.payload = .ok true := by
    rw [hstamp]
    exact hfits
  obtain ⟨s', call, r, hexecute, hobjection, hagreed⟩ := h.execute_ok hq hm hmfits s₁ calls₁
  have hcall : (c.call m).perform (s₁, calls₁) = (.ok r, s', calls₁ ++ [call]) := by
    rw [hjoined.call_perform (hq.origin ▸ hq.destination ▸ h.apart)
      (hq.destination ▸ Registry.isLocal_of_hosted h.hosts) hm]
    exact hexecute
  exact ⟨s', call, r, HubClient.accepts_at_once hsigned hstamped hcall hobjection, hagreed⟩

end Honest

end RelayHub
