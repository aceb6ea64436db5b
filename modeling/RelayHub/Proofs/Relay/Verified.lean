/-
Results that are recorded are verified.

Whatever comes back over the transport, and wherever the loop is stopped: a
relay that hands its requests to a client makes no call but those that an
accepted answer asks for, in the course of the request. The call that records
the result carries a payload and a signature that the client has checked against
the key of the destination. The callback carries what it says, and as it may
name any contract, it may name the routing contract too; that is the one way in
which something else is recorded.
-/
import RelayHub.Proofs.Hub.Notes
import RelayHub.Proofs.Relay.Lives
import RelayHub.Proofs.Trust.Store

set_option autoImplicit false

namespace RelayHub

open Script Deed RelayHub.Action

variable {σ : Type}

namespace Relay

variable {relay : Relay} {past past' : List Deed}

/-! ## Calls within an answer -/

/-- A journal in which every call of a contract is tried within an answer that
asks for it. -/
def Owned (relay : Relay) (past : List Deed) : Prop :=
  ∀ pre call answer post, past = pre ++ ⟨.invoke call, answer⟩ :: post →
    ∃ q r, relay.WithinAnswer q r pre ∧ call ∈ relay.callsFor q r

theorem owned_of_no_invoke (h : ∀ t ∈ past, ∀ call, t.op ≠ .invoke call) : relay.Owned past := by
  rintro pre call answer post rfl
  exact absurd rfl (h _ List.mem_append_cons_self call)

theorem Owned.append (h : relay.Owned past) (h' : relay.Owned past') :
    relay.Owned (past ++ past') := by
  intro pre call answer post hsplit
  rcases append_eq_split hsplit with ⟨mid, hpast, -⟩ | ⟨pre', rfl, hpast'⟩
  · exact h pre call answer mid hpast
  · obtain ⟨q, r, ⟨earlier, mid, rfl, hmid⟩, hcall⟩ := h' pre' call answer post hpast'
    exact ⟨q, r, ⟨past ++ earlier, mid, by simp, hmid⟩, hcall⟩

/-- Behind an answer stand its record and its calls. -/
theorem owned_of_answer {q : CrossChainRequest} {r : HubResponse} {body : List Deed}
    (hbody : ∀ t ∈ body, relay.Follows q r t) :
    relay.Owned (⟨.dispatch q, .ok r⟩ :: body) := by
  rintro (_ | ⟨t, pre⟩) call answer post hsplit
  · cases hsplit
  · obtain ⟨rfl, rfl⟩ := List.cons.inj hsplit
    obtain ⟨hpre, hcall⟩ := List.forall_mem_append.1 hbody
    rcases (List.forall_mem_cons.1 hcall).1 with hop | ⟨_, hmem, ⟨⟩⟩
    · cases hop
    · exact ⟨q, r, ⟨[], pre, rfl, hpre⟩, hmem⟩

/-- A request calls no contract before it is answered, and then what its answer
asks for. -/
theorem owned_of_course {q : CrossChainRequest} {rest : RelayScript Unit}
    (h : Course relay q past rest) : relay.Owned past := by
  have hlook : ∀ {looks}, Refusals (.hasSeen q.found.txHash) succeeded looks →
      relay.Owned looks := fun h => owned_of_no_invoke fun t ht => (quiet_of_looks h t ht).2.1
  have htry : ∀ {tries}, Refusals (.dispatch q) Accept.settled tries → relay.Owned tries :=
    fun h => owned_of_no_invoke fun t ht => by simp [op_of_refusals h t ht]
  have hcount : ∀ {counter after} {rest : RelayScript Unit}, Leads (count counter) after rest →
      relay.Owned after := fun h => owned_of_no_invoke fun t ht => (quiet_of_count h t ht).2.1
  have hone : ∀ {t : Deed}, (∀ call, t.op ≠ .invoke call) → relay.Owned [t] :=
    fun h => owned_of_no_invoke (by simpa using h)
  cases h with
  | foreign _ hafter => exact hcount hafter
  | looking _ hlooks _ => exact hlook hlooks
  | duplicate _ hlooks hafter =>
    exact (hlook hlooks).append ((hone (by simp)).append (hcount hafter))
  | dispatching _ hlooks htries _ =>
    exact (hlook hlooks).append ((hone (by simp)).append (htry htries))
  | refused _ hlooks htries _ hafter =>
    exact (hlook hlooks).append ((hone (by simp)).append
      ((htry htries).append ((hone (by simp)).append (hcount hafter))))
  | @recording _ _ writes r _ _ hlooks htries hwrites _ =>
    have hbody : ∀ t ∈ writes, relay.Follows q r t :=
      fun t ht => .inl (op_of_refusals hwrites t ht)
    exact (hlook hlooks).append ((hone (by simp)).append
      ((htry htries).append (owned_of_answer hbody)))
  | @recorded _ _ writes after r wrote _ _ hlooks htries hwrites hafter =>
    have hbefore : ∀ t ∈ writes ++ [⟨.recordSeen (recordOf q), .ok wrote⟩],
        relay.Follows q r t := by
      intro t ht
      rcases List.mem_append.1 ht with ht | ht
      · exact .inl (op_of_refusals hwrites t ht)
      · exact .inl (by rw [List.mem_singleton.1 ht])
    have hcalls : ∀ {body : List Deed} {rest : RelayScript Unit},
        Leads (relay.applyResult q r) body rest → ∀ t ∈ body, relay.Follows q r t :=
      fun hbody t ht => .inr ((of_leads_applyResult hbody).1 t ht)
    -- The count at the end belongs to no answer.
    have hanswer : relay.Owned (⟨.dispatch q, .ok r⟩ ::
        ((writes ++ [⟨.recordSeen (recordOf q), .ok wrote⟩]) ++ after)) := by
      rcases of_leads_andThen hafter with ⟨a, ha, -, -⟩ | ⟨_, body, counts, rfl, hbody, hcounts⟩
      · exact owned_of_answer (List.forall_mem_append.2 ⟨hbefore, hcalls ha⟩)
      · have h := (owned_of_answer (List.forall_mem_append.2 ⟨hbefore, hcalls hbody⟩)).append
          (hcount hcounts)
        simpa using h
    rw [List.append_assoc, List.singleton_append] at hanswer
    exact (hlook hlooks).append ((hone (by simp)).append ((htry htries).append hanswer))

theorem owned_composes (relay : Relay) : Composes relay relay.Owned where
  nil := owned_of_no_invoke (by simp)
  append h h' := h.append h'
  quiet h := owned_of_no_invoke (by simpa using h.2.1)
  course h := owned_of_course h

end Relay

/-! ## A relay with a client -/

/-- The same links, which hand requests to a client. -/
def RelayLinks.through (links : RelayLinks σ) (c : HubClient σ) : RelayLinks σ :=
  { links with dispatch := c.dispatch }

/-- A call that records the answer to a request, with the signature that its
destination has given. -/
structure Relay.RecordsVerified (relay : Relay) (c : HubClient σ) (q : CrossChainRequest)
    (r : HubResponse) (call : Invocation) : Prop where
  contract : call.contract = relay.router
  function : call.function = Contract.recordResult
  args : call.args =
    [q.origin.bytes, q.destination.bytes, Utf8.encode q.transactionId, Utf8.encode q.stepId,
     r.payload, r.signer, Utf8.encode r.errorMessage]
  verified : c.signatures.verify q.destination r.signer r.payload = .ok true

/-- A message on the transport for a request: it carries the payload, with the
signer of the request or else the signature of its chain. -/
structure HubClient.Carries (c : HubClient σ) (q : CrossChainRequest) (sent : HubRequest) :
    Prop where
  payload : sent.payload = q.payload
  given : q.signer ≠ [] → sent.signer = q.signer
  signed : q.signer = [] → c.signatures.sign q.origin q.payload = .ok sent.signer

theorem HubClient.carries_of_stamped {c : HubClient σ} {q : CrossChainRequest} {signed : HubRequest}
    (h : c.signed (.ofRequest q) = .ok signed) (s : σ) : c.Carries q (c.stamped signed s).1 := by
  obtain ⟨heq, hgiven, hsigned⟩ := signed_eq h
  rw [stamped_eq]
  exact ⟨(of_signed h).2.2, hgiven, hsigned⟩

/-- Whatever a connector and its connections do, and whatever happens at the
site of a relay: each call that the relay makes is made for an answered request,
and is the callback that the answer asks for, or records the answer with a
signature that verifies; and each message on the transport carries its request's
payload with the signature it should have. -/
theorem Relay.recorded_results_are_verified (relay : Relay) (links : RelayLinks σ) (c : HubClient σ)
    (world : σ) (history : List (Happening σ)) :
    (∀ life ∈ (Site.play relay (links.through c).perform history (.opened world)).lives,
      ∀ pre call answer post, life = pre ++ ⟨.invoke call, answer⟩ :: post →
        ∃ q r, relay.WithinAnswer q r pre ∧
          (callbackCall? r = some call ∨ relay.RecordsVerified c q r call)) ∧
    ∀ (q : CrossChainRequest) (s : σ) (sent : List HubRequest), ∃ new,
      (c.noted.dispatch q).perform (s, sent)
        = (((c.dispatch q).perform s).1, ((c.dispatch q).perform s).2, sent ++ new) ∧
      ∀ m ∈ new, c.Carries q m := by
  refine ⟨fun life hlife pre call answer post hcall => ?_, fun q s sent => ?_⟩
  · obtain ⟨loop, hlived⟩ := Site.lived_of_mem_lives hlife
    obtain ⟨q, r, hwithin, hmem⟩ :=
      (owned_composes relay).of_lived hlived pre call answer post hcall
    refine ⟨q, r, hwithin, ?_⟩
    rcases List.mem_cons.1 hmem with rfl | hcallback
    · refine .inr ⟨rfl, rfl, rfl, ?_⟩
      -- The answer is one that the client gave, so it was checked.
      obtain ⟨earlier, mid, rfl, -⟩ := hwithin
      have hdeed : ⟨.dispatch q, .ok r⟩ ∈ life := by simp [hcall]
      obtain ⟨s, hs⟩ := Site.answered_of_mem_lives hlife _ hdeed
      exact (HubClient.of_invoke_ok hs).2.2.2.2
    · exact .inl (Option.mem_toList.1 hcallback)
  · obtain ⟨new, hsent, hnew⟩ := HubClient.noted_invoke c (.ofRequest q) s sent
    refine ⟨new, hsent, fun m hm => ?_⟩
    obtain ⟨signed, s', hsigned, rfl⟩ := hnew m hm
    exact HubClient.carries_of_stamped hsigned s'

/-! ### A chain that asks

One chain of the pair asks the other one for something, and the answer is one
that the other chain has signed. -/

namespace Pair

/-- A transaction that asks for what a payload says. -/
def asking (payload signer : Bytes) : Envelope :=
  .invocation "t1" [Utf8.encode Contract.invoke, chainA.bytes, chainB.bytes, Utf8.encode "tx-1",
    Utf8.encode "1", payload, signer]

/-- Its block. -/
def askingBlock (payload signer : Bytes) : RawBlock :=
  { Bench.block with envelopes := [asking payload signer] }

/-- The request in it. -/
def asked (payload signer : Bytes) : CrossChainRequest where
  origin := chainA
  destination := chainB
  transactionId := "tx-1"
  stepId := "1"
  payload := payload
  signer := signer
  timestamp := 0
  found := ⟨"t1", 1, "h1", []⟩

/-- Nothing is stored, and the request is registered. -/
def start (payload signer : Bytes) : Bench :=
  (.empty, ⟨[(chainA, { Chain.new "router" "proxy" with
    blocks := [askingBlock payload signer]
    requests := [(⟨"tx-1", "1"⟩, (asking payload signer).args.drop 1)] })]⟩)

/-- A client that always gets the same answer. -/
def clientA {σ : Type} (answer : HubResponse) : HubClient σ where
  signatures := (trustA .standard).signatures .standard
  connector := ⟨fun _ => pure fun _ => pure answer⟩
  now := pure 1

/-- The answer of a car, and the signature of its chain. -/
def car : ContractResponse := .ok (Utf8.encode "\x7b\"make\":\"Toyota\"\x7d")

def carSigner : Bytes := Bytes.ofNat 64
  0x91e1264e60c26f5a49159cd736f128053f32ff2fb69103297ded26a8820d0c520deda8546e061cef11b21348cb32c1d4401cf72962e754b86ed5689ef3a577be

/-- The answer to the request as it comes back, with a callback. -/
def carAnswer (callback : Option CallbackDescriptor) : HubResponse where
  origin := chainA
  destination := chainB
  transactionId := "tx-1"
  stepId := "1"
  payload := ContractResponse.codec.write car
  signer := carSigner
  errorMessage := ""
  callback := callback.map CallbackDescriptor.codec.write

/-- The relay of the chain that asks. -/
def relayA : Relay := ⟨chainA, "router"⟩

/-- What happens to it: it takes turns until a block is done. -/
def oneBlock : List (Happening Bench) :=
  List.replicate 13 (.turn (.holding false) .work)

/-- The links of the relay, which get the same answer to every request. -/
def linksA (answer : HubResponse) : RelayLinks Bench :=
  (RelayLinks.onBench chainA fun _ => .ok answer).through (clientA answer)

/-! A callback that calls the routing contract. -/

/-- A callback that records something else than the result. -/
def forging : CallbackDescriptor where
  chaincode := "router"
  function := Contract.recordResult
  args := ["A", "B", "tx-1", "1", "made up", "nobody", ""]

/-- A payload with this callback. -/
def forgingPayload : Bytes :=
  InvokePayload.encode ⟨none, "fabcar", "QueryCar", ["CAR1"], some forging⟩

/-- The request, which is signed already. -/
def forgingRequest : CrossChainRequest := asked forgingPayload [1]

/-- The site of the relay when its block is done. -/
def forgingSite : Site Bench :=
  Site.play relayA (linksA (carAnswer (some forging))).perform oneBlock
    (.opened (start forgingPayload [1]))

/-- The call that the callback makes. -/
def forgedCall : Invocation where
  contract := "router"
  function := Contract.recordResult
  args := [chainA.bytes, chainB.bytes, Utf8.encode "tx-1", Utf8.encode "1", Utf8.encode "made up",
    Utf8.encode "nobody", []]

/-- What the loop did before it recorded the result. -/
def forgingStart : List Deed :=
  [⟨.latest, .ok 0⟩, ⟨.query 1, .ok (askingBlock forgingPayload [1])⟩, ⟨.hasSeen "t1", .ok false⟩,
   ⟨.dispatch forgingRequest, .ok (carAnswer (some forging))⟩,
   ⟨.recordSeen (Relay.recordOf forgingRequest), .ok true⟩]

/-- The call that records the result. -/
def carCall : Invocation :=
  relayA.resultCall forgingRequest (carAnswer (some forging))

/-- What it did from then on. -/
def forgingEnd : List Deed :=
  [⟨.invoke forgedCall, .ok (.ok [])⟩, ⟨.count .requestsRelayed, ()⟩,
   ⟨.storeBlock (.ofRaw chainA (askingBlock forgingPayload [1])), .ok ()⟩,
   ⟨.count .blocksProcessed, ()⟩]

theorem forging_lives :
    forgingSite.lives = [forgingStart ++ ⟨.invoke carCall, .ok (.ok [])⟩ :: forgingEnd] := by
  decide +kernel

end Pair

open Pair

theorem Relay.signed_car_is_recorded :
    (∃ life ∈ forgingSite.lives,
      life = forgingStart ++ ⟨.invoke carCall, .ok (.ok [])⟩ :: forgingEnd) ∧
    ∃ q r, relayA.WithinAnswer q r forgingStart ∧
      (callbackCall? r = some carCall ∨
        relayA.RecordsVerified (clientA (σ := Bench) (carAnswer (some forging))) q r carCall) := by
  have hlife :
      forgingStart ++ ⟨.invoke carCall, .ok (.ok [])⟩ :: forgingEnd ∈ forgingSite.lives := by
    rw [forging_lives]
    exact List.mem_singleton_self _
  exact ⟨⟨_, hlife, rfl⟩,
    (recorded_results_are_verified relayA _ _ _ oneBlock).1 _ hlife _ _ _ _ rfl⟩

/-- The callback of a request replaces the recorded result by one that nobody
has signed: the relay calls the routing contract a second time. -/
theorem Relay.callback_records_unverified_result :
    (asking forgingPayload [1]).request? (askingBlock forgingPayload [1])
        = .ok (some forgingRequest) ∧
      (∃ life ∈ forgingSite.lives,
        ⟨.dispatch forgingRequest, .ok (carAnswer (some forging))⟩ ∈ life ∧
        ⟨.invoke forgedCall, .ok (.ok [])⟩ ∈ life) ∧
      forgedCall.contract = relayA.router ∧ forgedCall.function = Contract.recordResult ∧
      (¬ ∃ r, relayA.RecordsVerified (clientA (σ := Bench) (carAnswer (some forging)))
        forgingRequest r forgedCall) ∧
      ((forgingSite.world.2.chain? chainA).bind fun c => c.results.lookup ⟨"tx-1", "1"⟩)
        = some ⟨"A", "B", ⟨"tx-1", "1"⟩, "made up", "6e6f626f6479", ""⟩ := by
  refine ⟨by decide +kernel, ?_, rfl, rfl, ?_, by decide +kernel⟩
  · rw [forging_lives]
    exact ⟨_, List.mem_singleton_self _, by simp [forgingStart], by simp [forgingEnd]⟩
  · rintro ⟨r, hr⟩
    have hargs := hr.args
    have hverified := hr.verified
    simp only [forgedCall, List.cons.injEq] at hargs
    obtain ⟨-, -, -, -, hpayload, hsigner, -⟩ := hargs
    -- Six bytes are no signature.
    rw [← hpayload, ← hsigner] at hverified
    exact absurd hverified (by decide +kernel)

end RelayHub
