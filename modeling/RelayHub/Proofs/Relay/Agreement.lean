/-
Two honest hubs and the relay between them.

The relay of the chain that asks hands a request to the other chain's hub, and
both hubs are honest. The request is handed over once if it is handed over at
all: its destination sees one call, and what the relay calls on its own chain
is the result of that call and the callback of the request. Only the relay's own
store and ledger can hold it up, and they hold it up as often as they refuse
something.
-/
import RelayHub.Proofs.Hub.Agreement
import RelayHub.Proofs.Relay.Asked
import RelayHub.Proofs.Relay.Landed

set_option autoImplicit false

namespace RelayHub

open Script Deed RelayHub.Action

variable {σ : Type}

namespace Relay

variable {relay : Relay} {q : CrossChainRequest} {r : HubResponse}

/-! ## Requests that are not handed over -/

/-- A journal in which no request is handed over. -/
def Undispatched (past : List Deed) : Prop :=
  ∀ t ∈ past, ∀ q, t.op ≠ .dispatch q

variable {past past' : List Deed}

theorem undispatched_append (h : Undispatched past) (h' : Undispatched past') :
    Undispatched (past ++ past') :=
  List.forall_mem_append.2 ⟨h, h'⟩

theorem undispatched_of_quiet (h : ∀ t ∈ past, Quiet t) : Undispatched past :=
  fun t ht => (h t ht).1

theorem undispatched_writes {record : DedupRecord}
    (h : Refusals (.recordSeen record) succeeded past) : Undispatched past :=
  fun t ht q => by simp [op_of_refusals h t ht]

/-- The calls for an answer are carried out in order, and all of them in the
end; nothing is handed over meanwhile. -/
theorem of_leads_applying {counter : Counter} {rest : RelayScript Unit}
    (h : Leads ((relay.applyResult q r).andThen fun _ => count counter) past rest) :
    Undispatched past ∧ carriedOut past <+: relay.callsFor q r ∧
      (rest = .done () → carriedOut past = relay.callsFor q r) := by
  have hcalls : ∀ {body : List Deed} {rest : RelayScript Unit},
      Leads (relay.applyResult q r) body rest → Undispatched body := by
    intro body rest hbody t ht q' hop
    obtain ⟨call, -, hcall⟩ := (of_leads_applyResult hbody).1 t ht
    simp [hcall] at hop
  rcases of_leads_andThen h with ⟨a, ha, hopen, rfl⟩ | ⟨_, body, counts, rfl, hbody, hcounts⟩
  · exact ⟨hcalls ha, (of_leads_applyResult ha).2.1,
      fun hdone => absurd hdone (andThen_ne_done hopen)⟩
  · have hall : carriedOut (body ++ counts) = relay.callsFor q r := by
      rw [carriedOut_append, (of_leads_applyResult hbody).2.2 rfl,
        carriedOut_of_no_invoke fun t ht => (quiet_of_count hcounts t ht).2.1, List.append_nil]
    exact ⟨undispatched_append (hcalls hbody) (undispatched_of_quiet (quiet_of_count hcounts)),
      hall ▸ List.prefix_rfl, fun _ => hall⟩

/-! ## Requests between honest hubs -/

/-- How far a request of a relay has got: the journal, the calls that its
destination has seen for it, and what is left to do. -/
inductive Handled (relay : Relay) (q : CrossChainRequest) (calls : List Invocation)
    (agreed : LedgerCall → HubResponse → Prop) :
    List Deed → List LedgerCall → RelayScript Unit → Prop where
  /-- It was not handed over; when nothing is left to do, it had a record. -/
  | kept {past : List Deed} {rest : RelayScript Unit} (hundispatched : Undispatched past)
      (hcalls : carriedOut past = [])
      (hdone : rest = .done () → ⟨.hasSeen q.found.txHash, .ok true⟩ ∈ past) :
      Handled relay q calls agreed past [] rest
  /-- It was handed over once, and its destination has seen one call. The result
  of that is recorded first, then the other calls follow. -/
  | handed {pre post : List Deed} {rest : RelayScript Unit} {call : LedgerCall} {r : HubResponse}
      (hagreed : agreed call r) (hpre : Undispatched pre) (hpost : Undispatched post)
      (hcalls : carriedOut (pre ++ ⟨.dispatch q, .ok r⟩ :: post) <+:
        ⟨relay.router, "ChainCodeInvokeResult",
          [q.origin.bytes, q.destination.bytes, Utf8.encode q.transactionId, Utf8.encode q.stepId,
           r.payload, r.signer, Utf8.encode r.errorMessage]⟩ :: calls)
      (hdone : rest = .done () → carriedOut (pre ++ ⟨.dispatch q, .ok r⟩ :: post)
        = ⟨relay.router, "ChainCodeInvokeResult",
            [q.origin.bytes, q.destination.bytes, Utf8.encode q.transactionId,
             Utf8.encode q.stepId, r.payload, r.signer, Utf8.encode r.errorMessage]⟩ :: calls) :
      Handled relay q calls agreed (pre ++ ⟨.dispatch q, .ok r⟩ :: post) [call] rest

end Relay

/-- The relay of a chain whose hub and the destination's hub are honest. The
notes are of the calls that the destination's hub makes, and nothing else that
the relay does adds to them. -/
structure Relay.Bridges (relay : Relay) (links : RelayLinks (σ × List LedgerCall)) (suite : Suite)
    (A B : ChainId) (keyA keyB : ChainKey) (c : HubClient (σ × List LedgerCall)) (x : HubExecutor σ)
    (contracts : LocalChain) (q : CrossChainRequest) : Prop where
  honest : Honest suite A B keyA keyB c x contracts
  chain : relay.chain = A
  joined : c.Joined x.noted q
  clock (s : σ × List LedgerCall) : (c.now s).2.2 = s.2
  spares {op : RelayOp} : (∀ q, op ≠ .dispatch q) → ∀ s, (links.perform op s).2.2 = s.2

namespace Relay.Bridges

variable {relay : Relay} {links : RelayLinks (σ × List LedgerCall)} {suite : Suite} {A B : ChainId}
  {keyA keyB : ChainKey} {c : HubClient (σ × List LedgerCall)} {x : HubExecutor σ}
  {contracts : LocalChain} {q : CrossChainRequest} {p : InvokePayload} {past pre post : List Deed}
  {s s' : σ} {calls calls' : List LedgerCall}

section Course

variable (h : relay.Bridges links suite A B keyA keyB c x contracts q) (hq : q.Asks A B p)
include h

/-- Without a request that is handed over, the destination sees nothing. -/
theorem calls_undispatched (hplays : Plays (links.through c).perform (s, calls) past (s', calls'))
    (hpast : Undispatched past) : calls' = calls := by
  refine hplays.keeps Prod.snd fun t ht s _ => ?_
  have hspares := h.spares (hpast t ht) s
  obtain ⟨op, answer⟩ := t
  cases op with
  | dispatch q' => exact absurd rfl (hpast _ ht q')
  | _ => exact hspares

/-- A journal without anything of note leaves the request where it is. -/
theorem handled_of_quiet {rest : RelayScript Unit}
    (hplays : Plays (links.through c).perform (s, calls) past (s', calls'))
    (hquiet : ∀ t ∈ past, Quiet t)
    (hdone : rest = .done () → ⟨.hasSeen q.found.txHash, .ok true⟩ ∈ past) :
    ∃ new, calls' = calls ++ new ∧
      relay.Handled q p.callbackCall?.toList (Agreed suite B keyB contracts p) past new rest := by
  have hundispatched := undispatched_of_quiet hquiet
  refine ⟨[], ?_, .kept hundispatched ?_ hdone⟩
  · rw [h.calls_undispatched hplays hundispatched, List.append_nil]
  · exact carriedOut_of_no_invoke fun t ht => (hquiet t ht).2.1

include hq

/-- The request is never refused. -/
theorem dispatch_answered (hplays : Plays (links.through c).perform (s, calls) past (s', calls'))
    {answer : Except HubError HubResponse} (hdeed : ⟨.dispatch q, answer⟩ ∈ past) :
    ∃ r, answer = .ok r := by
  obtain ⟨⟨s, calls⟩, hanswer⟩ := hplays.answered hdeed
  obtain ⟨s', call, r, haccepts, -⟩ := h.honest.dispatch_ok hq h.joined h.clock s calls
  refine ⟨r, hanswer.symm.trans ?_⟩
  change ((c.dispatch q).perform (s, calls)).1 = _
  rw [haccepts.accepted]

/-- So no try of it is one that would not do. -/
theorem tries_eq_nil (hplays : Plays (links.through c).perform (s, calls) past (s', calls'))
    {tries : List Deed} (htries : Refusals (.dispatch q) Accept.settled tries)
    (hmem : ∀ t ∈ tries, t ∈ past) : tries = [] := by
  refine List.eq_nil_iff_forall_not_mem.2 fun t ht => ?_
  obtain ⟨answer, rfl, hrefused⟩ := htries t ht
  obtain ⟨r, rfl⟩ := h.dispatch_answered hq hplays (hmem _ ht)
  cases hrefused

/-- A request that is handed over once makes one call at its destination. -/
theorem calls_dispatched {r : HubResponse}
    (hplays : Plays (links.through c).perform (s, calls) (pre ++ ⟨.dispatch q, .ok r⟩ :: post)
      (s', calls'))
    (hpre : Undispatched pre) (hpost : Undispatched post) :
    ∃ call, Agreed suite B keyB contracts p call r ∧ calls' = calls ++ [call] := by
  obtain ⟨⟨s₁, calls₁⟩, hbefore, hrest⟩ := hplays.split
  obtain rfl := h.calls_undispatched hbefore hpre
  obtain ⟨hanswer, hafter⟩ := hrest.of_cons
  obtain ⟨s₂, call, r', haccepts, hagreed⟩ := h.honest.dispatch_ok hq h.joined h.clock s₁ calls₁
  have hperform : (links.through c).perform (.dispatch q) (s₁, calls₁)
      = (.ok r', s₂, calls₁ ++ [call]) := haccepts.accepted
  dsimp only at hanswer hafter
  rw [hperform] at hanswer hafter
  obtain rfl := Except.ok.inj hanswer
  exact ⟨call, hagreed, h.calls_undispatched hafter hpost⟩

/-- An answer hands the request over; what follows is to carry out its calls. -/
theorem handled_of_answer {r : HubResponse} {rest : RelayScript Unit}
    (hplays : Plays (links.through c).perform (s, calls) (pre ++ ⟨.dispatch q, .ok r⟩ :: post)
      (s', calls'))
    (hpre : ∀ t ∈ pre, Quiet t) (hpost : Undispatched post)
    (hcalls : carriedOut post <+: relay.callsFor q r)
    (hdone : rest = .done () → carriedOut post = relay.callsFor q r) :
    ∃ new, calls' = calls ++ new ∧
      relay.Handled q p.callbackCall?.toList (Agreed suite B keyB contracts p)
        (pre ++ ⟨.dispatch q, .ok r⟩ :: post) new rest := by
  have hbefore := undispatched_of_quiet hpre
  obtain ⟨call, hagreed, hnotes⟩ := h.calls_dispatched hq hplays hbefore hpost
  have hasked : relay.callsFor q r = relay.resultCall q r :: p.callbackCall?.toList := by
    rw [callsFor, callbackCall?_eq hagreed.callback]
  have hcarried : carriedOut (pre ++ ⟨.dispatch q, .ok r⟩ :: post) = carriedOut post := by
    rw [carriedOut_append, carriedOut_of_no_invoke fun t ht => (hpre t ht).2.1]
    rfl
  rw [hasked] at hcalls hdone
  rw [← hcarried] at hcalls hdone
  exact ⟨[call], hnotes, .handed hagreed hbefore hpost hcalls hdone⟩

/-- Whatever course the request takes, it stays where it is, or it is handed
over once. -/
theorem handled_of_course {rest : RelayScript Unit}
    (hplays : Plays (links.through c).perform (s, calls) past (s', calls'))
    (hcourse : Course relay q past rest) :
    ∃ new, calls' = calls ++ new ∧
      relay.Handled q p.callbackCall?.toList (Agreed suite B keyB contracts p) past new rest := by
  have hunseen : Quiet ⟨.hasSeen q.found.txHash, .ok false⟩ := by simp [Quiet]
  have hlooked : ∀ {looks : List Deed}, Refusals (.hasSeen q.found.txHash) succeeded looks →
      ∀ t ∈ looks ++ [⟨.hasSeen q.found.txHash, .ok false⟩], Quiet t := fun hlooks =>
    List.forall_mem_append.2 ⟨quiet_of_looks hlooks, by simpa using hunseen⟩
  cases hcourse with
  | foreign hforeign _ => exact absurd (hq.origin.trans h.chain.symm) hforeign
  | looking _ hlooks hopen =>
    exact h.handled_of_quiet hplays (quiet_of_looks hlooks) fun hdone => absurd hdone hopen
  | duplicate _ hlooks hafter =>
    refine h.handled_of_quiet hplays (List.forall_mem_append.2 ⟨quiet_of_looks hlooks, ?_⟩)
      fun _ => List.mem_append_cons_self
    exact List.forall_mem_cons.2 ⟨by simp [Quiet], quiet_of_count hafter⟩
  | dispatching _ hlooks htries hopen =>
    obtain rfl := h.tries_eq_nil hq hplays htries fun t ht => by simp [ht]
    exact h.handled_of_quiet hplays (hlooked hlooks) fun hdone => absurd hdone hopen
  | refused _ _ _ _ _ =>
    obtain ⟨r, hr⟩ := h.dispatch_answered hq hplays
      (List.mem_append_right _ (List.mem_cons_of_mem _ List.mem_append_cons_self))
    cases hr
  | recording _ hlooks htries hwrites hopen =>
    obtain rfl := h.tries_eq_nil hq hplays htries fun t ht => by simp [ht]
    rw [List.nil_append, List.append_cons] at hplays ⊢
    refine h.handled_of_answer hq hplays (hlooked hlooks) (undispatched_writes hwrites) ?_
      fun hdone => absurd hdone hopen
    rw [carriedOut_of_no_invoke fun t ht => by simp [op_of_refusals hwrites t ht]]
    exact List.nil_prefix
  | @recorded _ _ writes after r wrote _ _ hlooks htries hwrites hafter =>
    obtain rfl := h.tries_eq_nil hq hplays htries fun t ht => by simp [ht]
    rw [List.nil_append, List.append_cons] at hplays ⊢
    obtain ⟨hquiet, hprefix, hall⟩ := of_leads_applying hafter
    have hcarried : carriedOut (writes ++ ⟨.recordSeen (recordOf q), .ok wrote⟩ :: after)
        = carriedOut after := by
      rw [carriedOut_append,
        carriedOut_of_no_invoke fun t ht => by simp [op_of_refusals hwrites t ht]]
      rfl
    refine h.handled_of_answer hq hplays (hlooked hlooks) ?_ (hcarried ▸ hprefix)
      fun hdone => hcarried.trans (hall hdone)
    exact undispatched_append (undispatched_writes hwrites)
      (List.forall_mem_cons.2 ⟨by simp, hquiet⟩)

end Course

end Relay.Bridges

/-- Between honest hubs, whatever the payload says and whatever the ledger does
that is asked: the client accepts the answer at once, and the answer agrees with
the one call that the ledger sees. A relay hands the request over once at most;
when it is done with the request, it has recorded that answer and made the call
of the callback, if the request had no record before. Nothing holds it up but
what its own store and ledger refuse. -/
theorem Relay.honest_hubs_agree {relay : Relay} {links : RelayLinks (σ × List LedgerCall)}
    {suite : Suite} {A B : ChainId} {keyA keyB : ChainKey} {c : HubClient (σ × List LedgerCall)}
    {x : HubExecutor σ} {contracts : LocalChain} {q : CrossChainRequest} {p : InvokePayload}
    (h : relay.Bridges links suite A B keyA keyB c x contracts q) (hq : q.Asks A B p) :
    (∀ s calls, ∃ s' call r, c.AcceptsAtOnce q (s, calls) (s', calls ++ [call]) r ∧
      Agreed suite B keyB contracts p call r) ∧
    ∀ (patience left : Nat) (s s' : σ) (calls calls' : List LedgerCall) (past : List Deed)
      (rest : RelayScript Unit),
      run (journaled (links.through c).perform) (relay.relayRequest q) patience ((s, calls), [])
          = ((rest, left), (s', calls'), past) →
        (∃ new, calls' = calls ++ new ∧ relay.Handled q p.callbackCall?.toList
          (Agreed suite B keyB contracts p) past new rest) ∧
        (rest = .done () ∨ patience < ungranted granted past) := by
  refine ⟨h.honest.dispatch_ok hq h.joined h.clock, ?_⟩
  intro patience left s s' calls calls' past rest hrun
  obtain ⟨past, rfl, hplays, hleads⟩ := run_journaled hrun
  refine ⟨h.handled_of_course hq hplays (course_of_leads hleads), ?_⟩
  rcases (takes_relayRequest relay q).run hrun with ⟨_, hdone⟩ | hrefused
  · exact .inl hdone
  · exact .inr (by simpa [ungranted] using hrefused)

/-! ### Two hubs

The hubs of the pair have one bench: the store of the chain that asks, and a
ledger with both chains. -/

namespace Pair

/-- Bytes that are no signature in either standard scheme. -/
def spare : Bytes := List.replicate Crypto.signatureLength 0

/-- The signature that a standard scheme gives, if it is one that the scheme
accepts. -/
def given? (a : SignatureAlgorithm) (secret : Nat) (digest : Bytes) : Option Bytes :=
  ((Suite.standard a).sign secret digest).filter fun signature =>
    decide (signature.length = Crypto.signatureLength) &&
      (Suite.standard a).verify ((Suite.standard a).publicOf secret) digest signature == some true

/-- The standard schemes, made to sign everything: where they give nothing that
they accept, the spare signature stands in. -/
def mended : Suite := fun a =>
  { Suite.standard a with
    sign := fun secret digest => some ((given? a secret digest).getD spare)
    verify := fun point digest signature =>
      if signature = spare then some true else (Suite.standard a).verify point digest signature }

theorem mended_verify (a : SignatureAlgorithm) (point : Crypto.Point) (digest signature : Bytes) :
    (mended a).verify point digest signature =
      if signature = spare then some true
      else (Suite.standard a).verify point digest signature :=
  rfl

theorem mended_signs (a : SignatureAlgorithm) (secret : Nat) :
    (ChainKey.signing a secret).Signs mended := by
  intro chain digest _
  refine ⟨(given? a secret digest).getD spare, rfl, ?_⟩
  have hfits : ((given? a secret digest).getD spare).length = Crypto.signatureLength ∧
      (mended a).verify ((mended a).publicOf secret) digest ((given? a secret digest).getD spare)
        = some true := by
    rw [mended_verify]
    cases hgiven : given? a secret digest with
    | none => exact ⟨rfl, if_pos rfl⟩
    | some signature =>
      obtain ⟨-, haccepted⟩ := Option.filter_eq_some_iff.1 hgiven
      rw [Bool.and_eq_true, decide_eq_true_iff, beq_iff_eq] at haccepted
      refine ⟨haccepted.1, ?_⟩
      rw [Option.getD_some]
      split
      · rfl
      · exact haccepted.2
  rw [ChainKey.verify_toPublic, ChainKey.verify, if_neg (Decidable.not_not.2 hfits.1)]
  dsimp only [ChainKey.algorithm, ChainKey.point]
  rw [hfits.2]

/-- The hub of the chain that is asked, at the bench. -/
def benchB : HubExecutor Bench where
  registry := (hubB mended).registry
  signatures := (hubB mended).signatures
  ledger _ := MemoryLedger.ledger.within ⟨Prod.snd, fun l s => (s.1, l)⟩

/-- The client of the chain that asks. It reaches the other hub's service. -/
def clientToB : HubClient (Bench × List LedgerCall) where
  signatures := (trustA mended).signatures mended
  connector := ⟨fun _ => pure (HubService.invoke ⟨benchB.noted, idleClient⟩)⟩
  now := pure 1

/-- The links of its relay, beside the notes. -/
def linksBeside : RelayLinks (Bench × List LedgerCall) where
  chain := chainA
  store := .ofBackend chainA (ByteMap.backend.within ⟨fun s => s.1.1, fun m s => ((m, s.1.2), s.2)⟩)
  ledger := MemoryLedger.ledger.within ⟨fun s => s.1.2, fun l s => ((s.1.1, l), s.2)⟩
  dispatch _ := throw ⟨.unavailable, "no network"⟩
  count _ := pure ()

theorem linksBeside_spares {op : RelayOp} (hop : ∀ q, op ≠ .dispatch q)
    (s : Bench × List LedgerCall) : (linksBeside.perform op s).2.2 = s.2 := by
  have hstore : linksBeside.store.Spares Prod.snd :=
    BlockStore.ofBackend_spares (Backend.within_spares _ _ fun _ _ => rfl) chainA
  cases op with
  | latest => exact (hstore.latest chainA).outcome s
  | query n => rfl
  | hasSeen txHash => exact (hstore.hasSeen txHash).outcome s
  | dispatch q => exact absurd rfl (hop q)
  | recordSeen r => exact (hstore.recordSeen r).outcome s
  | invoke call => rfl
  | storeBlock b => exact (hstore.storeBlock b).outcome s
  | count counter => rfl

/-- The request with the callback, which leaves the signing to its hub. -/
def unsignedRequest : CrossChainRequest := asked auditPayload.encode []

/-- The bench before the request is relayed. -/
def startBoth : Bench :=
  (.empty, ⟨[(chainA, { (Chain.new "router" "proxy").deploy "audit" fun _ _ => .ok [] with
      blocks := [askingBlock auditPayload.encode []]
      requests := [(⟨"tx-1", "1"⟩, (asking auditPayload.encode []).args.drop 1)] })] ++
    carLedger.chains⟩)

theorem pair_bridges : relayA.Bridges linksBeside mended chainA chainB keyA keyB clientToB benchB
    ⟨"router", "proxy"⟩ unsignedRequest where
  honest := {
    apart := by decide
    signsA := mended_signs .sm2 _
    signsB := mended_signs .ecdsa _
    clientKeys := ⟨trustA mended, rfl, rfl, .inr rfl⟩
    executorKeys := ⟨trustB mended, rfl, rfl, .inr rfl⟩
    hosts := rfl }
  chain := rfl
  joined := .beyond idleClient rfl fun _ _ _ => rfl
  clock _ := rfl
  spares := linksBeside_spares

/-- What the relay does with the request. -/
def auditDeeds : List Deed :=
  [⟨.hasSeen "t1", .ok false⟩,
   ⟨.dispatch unsignedRequest, .ok (carAnswer (some audit))⟩,
   ⟨.recordSeen (Relay.recordOf unsignedRequest), .ok true⟩,
   ⟨.invoke (relayA.resultCall unsignedRequest (carAnswer (some audit))), .ok (.ok [])⟩,
   ⟨.invoke ⟨"audit", "Record", [Utf8.encode "CAR1", Utf8.encode "done"]⟩, .ok (.ok [])⟩,
   ⟨.count .requestsRelayed, ()⟩]

theorem audit_run :
    (run (journaled (linksBeside.through clientToB).perform) (relayA.relayRequest unsignedRequest) 0
      ((startBoth, []), [])).2.2 = auditDeeds := by
  decide +kernel

end Pair

open Pair in
theorem Relay.car_is_agreed :
    relayA.Bridges linksBeside mended chainA chainB keyA keyB clientToB benchB ⟨"router", "proxy"⟩
        unsignedRequest ∧
      unsignedRequest.Asks chainA chainB auditPayload ∧
      ∃ left s' call,
        run (journaled (linksBeside.through clientToB).perform)
            (relayA.relayRequest unsignedRequest) 0 ((startBoth, []), [])
          = ((.done (), left), (s', [call]), auditDeeds) ∧
        Agreed mended chainB keyB ⟨"router", "proxy"⟩ auditPayload call
          (carAnswer (some audit)) := by
  have hasks : unsignedRequest.Asks chainA chainB auditPayload := ⟨rfl, rfl, rfl, rfl, .inl rfl⟩
  refine ⟨pair_bridges, hasks, ?_⟩
  have hpast := audit_run
  rcases hrun : run (journaled (linksBeside.through clientToB).perform)
    (relayA.relayRequest unsignedRequest) 0 ((startBoth, []), [])
    with ⟨⟨rest, left⟩, ⟨s', calls'⟩, past⟩
  rw [hrun] at hpast
  dsimp only at hpast
  obtain ⟨⟨new, hnew, hhandled⟩, hend⟩ :=
    (honest_hubs_agree pair_bridges hasks).2 0 left startBoth s' [] calls' past rest hrun
  have hdone : rest = .done () := by
    -- Everything was granted, so nothing held the run up.
    refine hend.resolve_right ?_
    rw [hpast]
    decide
  cases hhandled with
  | kept hundispatched _ _ =>
    rw [hpast] at hundispatched
    exact absurd rfl (hundispatched ⟨.dispatch unsignedRequest, .ok (carAnswer (some audit))⟩
      (by simp [auditDeeds]) unsignedRequest)
  | @handed pre post _ call r hagreed _ _ _ _ =>
    have hdeed : ⟨.dispatch unsignedRequest, .ok r⟩ ∈ auditDeeds :=
      hpast ▸ List.mem_append_cons_self
    obtain rfl : r = carAnswer (some audit) := by simpa [auditDeeds] using hdeed
    exact ⟨left, s', call, by rw [hdone, hnew, hpast, List.nil_append], hagreed⟩

end RelayHub
