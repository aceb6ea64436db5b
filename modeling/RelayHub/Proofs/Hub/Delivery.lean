/-
A request that is delivered to a hub again and again.

A hub has no memory of requests. Each delivery is checked anew and makes its
call anew, and the call is the same each time; so a ledger sees as many calls
as there were deliveries that were carried out. What keeps this harmless is not
the hub but the contract: if its call changes nothing the second time, the
ledger ends up as after one delivery.
-/
import RelayHub.Http.HubServer
import RelayHub.Hub.Connectors
import RelayHub.Hub.Service
import RelayHub.Ledger.Memory
import RelayHub.Proofs.Hub.Client
import RelayHub.Proofs.Hub.Executor

set_option autoImplicit false

namespace RelayHub.Connector

open RelayHub.Action

variable {σ : Type} {target : ChainId}

/-- Within a hub, the chains that it hosts are reached directly. -/
theorem loopback_connect {x : HubExecutor σ} (h : x.registry.isLocal target = true) :
    (loopback x).connect target = ofExcept (.ok x.execute) := by
  rw [loopback]
  dsimp only
  rw [if_pos h]

/-- A connector that goes by the role of a chain reaches those chains the inner
way. -/
theorem byRole_connect {registry : Registry} {inner outer : Connector σ}
    (h : registry.isLocal target = true) :
    (byRole registry inner outer).connect target = inner.connect target := by
  unfold Registry.isLocal at h
  rw [byRole]
  dsimp only
  cases hrole : registry.role? target with
  | none =>
    rw [hrole] at h
    cases h
  | some role =>
    rw [hrole, Option.any_some] at h
    exact if_pos h

end RelayHub.Connector

namespace RelayHub.HubService

open RelayHub.Action HubExecutor

variable {σ τ : Type}

/-! ## Deliveries -/

/-- The ways to hand a request to a hub. -/
inductive Door where
  | executor
  | service
deriving DecidableEq, Repr

/-- One delivery of a request. -/
def deliver (h : HubService σ) (q : HubRequest) : Door → Action σ HubError HubResponse
  | .executor => h.executor.execute q
  | .service => h.invoke q

/-- Deliveries of one request, one after the other. -/
def deliverAll (h : HubService σ) (q : HubRequest) (doors : List Door) (s : σ) : σ :=
  doors.foldl (fun s door => ((h.deliver q door).perform s).2) s

/-- The call of a proxy contract that a delivery makes, if it makes one. A
request of a local chain is signed before it is carried out. -/
def callAt (h : HubService σ) (q : HubRequest) : Door → Option (ChainId × Invocation)
  | .executor => h.executor.callFor q
  | .service =>
    if h.executor.registry.isLocal q.origin then
      match h.client.signed q with
      | .ok signed => h.executor.callFor signed
      | .error _ => none
    else h.executor.callFor q

/-! ## Hubs and their ledgers -/

/-- A hub whose ledgers change by the calls of its executor alone. It reaches
its own chains within itself, and neither the clock nor other hubs touch its
ledgers. -/
structure Serves (h : HubService σ) (ledgers : σ → τ) (effect : ChainId → Invocation → τ → τ) :
    Prop where
  invoke (chain : ChainId) (call : Invocation) (s : σ) :
    ledgers (((h.executor.ledger chain).invoke chain call).perform s).2
      = effect chain call (ledgers s)
  now (s : σ) : ledgers (h.client.now s).2 = ledgers s
  within {target : ChainId} : h.executor.registry.isLocal target = true →
    h.client.connector.connect target = ofExcept (.ok h.executor.execute)
  beyond {target : ChainId} : h.executor.registry.isLocal target = false →
    Keeps ledgers (h.client.connector.connect target) ∧
      ∀ {s s' : σ} {api : HubApi σ}, (h.client.connector.connect target).perform s = (.ok api, s') →
        ∀ q, Keeps ledgers (api q)

variable {h : HubService σ} {ledgers : σ → τ} {effect : ChainId → Invocation → τ → τ}

/-- A connection over the web leaves alone what posting leaves alone. -/
theorem dial_keeps {peer : HttpPeer σ}
    (hpost : ∀ address body s, ledgers (peer.post address body s).2 = ledgers s)
    (endpoint : String) (q : HubRequest) : Keeps ledgers (Connector.dial peer endpoint q) :=
  fun s _ _ hs => by cases hs; exact hpost _ _ s

/-- A hub with the standard connector serves, if the web leaves its ledgers
alone. -/
theorem serves_of_standard {peer : HttpPeer σ}
    (hconnector : h.client.connector = .standard peer h.executor)
    (hinvoke : ∀ chain call s, ledgers (((h.executor.ledger chain).invoke chain call).perform s).2
      = effect chain call (ledgers s))
    (hnow : ∀ s, ledgers (h.client.now s).2 = ledgers s)
    (hpost : ∀ address body s, ledgers (peer.post address body s).2 = ledgers s) :
    h.Serves ledgers effect where
  invoke := hinvoke
  now := hnow
  within {target} hlocal := by
    rw [hconnector, Connector.standard, Connector.byRole_connect hlocal,
      Connector.loopback_connect hlocal]
  beyond {target} hremote := by
    rw [hconnector, Connector.standard, Connector.byRole]
    dsimp only
    unfold Registry.isLocal at hremote
    cases hrole : h.executor.registry.role? target with
    | none => exact ⟨.ofExcept _, fun hapi => by cases hapi⟩
    | some role =>
      rw [hrole, Option.any_some] at hremote
      dsimp only
      rw [if_neg (by simp [hremote]), Connector.http]
      refine ⟨.ofExcept _, fun {s s' api} hapi => ?_⟩
      rw [perform_ofExcept] at hapi
      obtain ⟨hanswer, -⟩ := Prod.mk.inj hapi
      split at hanswer
      · cases hanswer
        exact dial_keeps hpost _
      · cases hanswer

/-! ## One delivery -/

section Delivery

variable (hserves : h.Serves ledgers effect)
include hserves

/-- What a call of an executor does to the ledgers. -/
theorem execute_ledgers (q : HubRequest) (s : σ) :
    ledgers ((h.executor.execute q).perform s).2
      = (h.executor.callFor q).elim (ledgers s) fun c => effect c.1 c.2 (ledgers s) := by
  rw [execute_state]
  cases h.executor.callFor q with
  | none => rfl
  | some c => exact hserves.invoke c.1 c.2 s

/-- Sending a request comes to one call of the executor if the destination is
hosted here, and else to none. -/
theorem send_ledgers (q : HubRequest) (s : σ) :
    ledgers ((h.client.send q).perform s).2
      = (h.executor.callFor q).elim (ledgers s) fun c => effect c.1 c.2 (ledgers s) := by
  cases hlocal : h.executor.registry.isLocal q.destination with
  | true =>
    -- Within the hub, a call is what the executor does with it, and that is never late.
    have hcall : (h.client.call q).perform s = (h.executor.execute q).perform s := by
      rw [HubClient.call, hserves.within hlocal]
      rfl
    rw [HubClient.send_once fun e he => execute_not_late (hcall ▸ he), hcall]
    exact execute_ledgers hserves q s
  | false =>
    obtain ⟨hconnect, hconnection⟩ := hserves.beyond hlocal
    rw [callFor_of_not_local hlocal]
    exact (HubClient.send_keeps (HubClient.call_keeps hconnect fun hapi =>
      hconnection hapi q)).outcome s

/-- The calling side does no more than sending what it has signed. -/
theorem client_ledgers (q : HubRequest) (s : σ) :
    ledgers ((h.client.invoke q).perform s).2 =
      match h.client.signed q with
      | .ok signed =>
        (h.executor.callFor signed).elim (ledgers s) fun c => effect c.1 c.2 (ledgers s)
      | .error _ => ledgers s := by
  rw [HubClient.invoke_perform]
  cases h.client.signed q with
  | error e => rfl
  | ok signed =>
    dsimp only
    -- The time that a request gets has no part in what is done with it.
    have hstamped : h.executor.callFor (h.client.stamped signed s).1 = h.executor.callFor signed ∧
        ledgers (h.client.stamped signed s).2 = ledgers s := by
      unfold HubClient.stamped
      split
      · exact ⟨rfl, hserves.now s⟩
      · exact ⟨rfl, rfl⟩
    have hsent := send_ledgers hserves (h.client.stamped signed s).1 (h.client.stamped signed s).2
    rw [hstamped.1, hstamped.2] at hsent
    rw [← hsent]
    obtain ⟨stamped, s₁⟩ := h.client.stamped signed s
    dsimp only
    rcases (h.client.send stamped).perform s₁ with ⟨e | r, s₂⟩
    · rfl
    · dsimp only
      split <;> rfl

/-- What one delivery does to the ledgers. -/
theorem deliver_ledgers (q : HubRequest) (door : Door) (s : σ) :
    ledgers ((h.deliver q door).perform s).2
      = (h.callAt q door).elim (ledgers s) fun c => effect c.1 c.2 (ledgers s) := by
  cases door with
  | executor => exact execute_ledgers hserves q s
  | service =>
    rw [deliver, invoke, callAt]
    -- The service turns away what stays on one chain; the executor would do so as well,
    -- so no call is lost by that.
    by_cases hsame : q.origin = q.destination
    · rw [if_pos hsame]
      have hnone : ∀ q', q'.origin = q.origin → q'.destination = q.destination →
          h.executor.callFor q' = none := fun q' horigin hdestination =>
        callFor_of_same (horigin.trans (hsame.trans hdestination.symm))
      split
      · cases hsigned : h.client.signed q with
        | error e => rfl
        | ok signed =>
          obtain ⟨horigin, hdestination, -⟩ := HubClient.of_signed hsigned
          dsimp only
          rw [hnone signed horigin hdestination]
          rfl
      · rw [hnone q rfl rfl]
        rfl
    · rw [if_neg hsame]
      split
      · rw [client_ledgers hserves]
        cases h.client.signed q <;> rfl
      · exact execute_ledgers hserves q s

end Delivery

/-- The call of a delivery is that of the executor, for a request with the same
destination and payload. -/
theorem of_callAt {q : HubRequest} {door : Door} {c : ChainId × Invocation}
    (hc : h.callAt q door = some c) :
    ∃ q', q'.destination = q.destination ∧ q'.payload = q.payload ∧
      h.executor.callFor q' = some c := by
  cases door with
  | executor => exact ⟨q, rfl, rfl, hc⟩
  | service =>
    rw [callAt] at hc
    split at hc
    · split at hc
      · obtain ⟨-, hdestination, hpayload⟩ := HubClient.of_signed ‹_›
        exact ⟨_, hdestination, hpayload, hc⟩
      · cases hc
    · exact ⟨q, rfl, rfl, hc⟩

/-- All calls that deliveries of a request make are one call. -/
theorem callAt_unique {q : HubRequest} {door door' : Door} {c c' : ChainId × Invocation}
    (hc : h.callAt q door = some c) (hc' : h.callAt q door' = some c') : c' = c := by
  obtain ⟨q₁, hdestination₁, hpayload₁, h₁⟩ := of_callAt hc
  obtain ⟨q₂, hdestination₂, hpayload₂, h₂⟩ := of_callAt hc'
  exact callFor_unique (hdestination₂.trans hdestination₁.symm) (hpayload₂.trans hpayload₁.symm)
    h₁ h₂

/-! ## Several deliveries -/

/-- What deliveries of a request come to. -/
structure Repeats (h : HubService σ) (ledgers : σ → τ) (effect : ChainId → Invocation → τ → τ)
    (q : HubRequest) (doors : List Door) (s : σ) : Prop where
  /-- The ledgers see the calls of the deliveries, each of which makes one at
  most, and nothing else. -/
  each : ledgers (h.deliverAll q doors s)
    = (doors.filterMap (h.callAt q)).foldl (fun l c => effect c.1 c.2 l) (ledgers s)
  /-- All of them are one call, of the proxy contract of a chain hosted here. -/
  same {door : Door} {c : ChainId × Invocation} : h.callAt q door = some c →
    (∀ c' ∈ doors.filterMap (h.callAt q), c' = c) ∧
      ∃ hosted, h.executor.registry.hosted c.1 = .ok hosted ∧ c.2.contract = hosted.proxy ∧
        c.2.function = Contract.proxyCall
  /-- If that call, made twice, does what it does when made once, the ledgers end
  up as after one delivery. -/
  once {door : Door} {c : ChainId × Invocation} : door ∈ doors → h.callAt q door = some c →
    effect c.1 c.2 (effect c.1 c.2 (ledgers s)) = effect c.1 c.2 (ledgers s) →
      ledgers (h.deliverAll q doors s) = ledgers ((h.deliver q door).perform s).2

/-- Each delivery makes its calls one after the other. -/
theorem deliverAll_ledgers (hserves : h.Serves ledgers effect) (q : HubRequest) (doors : List Door)
    (s : σ) : ledgers (h.deliverAll q doors s)
      = (doors.filterMap (h.callAt q)).foldl (fun l c => effect c.1 c.2 l) (ledgers s) := by
  induction doors generalizing s with
  | nil => rfl
  | cons door doors ih =>
    have hrest := ih ((h.deliver q door).perform s).2
    rw [deliver_ledgers hserves] at hrest
    rw [deliverAll, List.foldl_cons]
    refine hrest.trans ?_
    cases hc : h.callAt q door with
    | none =>
      rw [List.filterMap_cons_none hc]
      rfl
    | some c =>
      rw [List.filterMap_cons_some hc]
      rfl

/-- A call that changes nothing any more changes nothing however often it is
made. -/
theorem foldl_unchanged {c : ChainId × Invocation} {calls : List (ChainId × Invocation)} {l : τ}
    (hcalls : ∀ c' ∈ calls, c' = c) (hl : effect c.1 c.2 l = l) :
    calls.foldl (fun l c => effect c.1 c.2 l) l = l := by
  induction calls with
  | nil => rfl
  | cons c' calls ih =>
    obtain ⟨rfl, hcalls⟩ := List.forall_mem_cons.1 hcalls
    rw [List.foldl_cons, hl]
    exact ih hcalls

/-- However often and in whichever way a request is delivered: each delivery
makes the same call, once at most, and that is all the ledgers see. -/
theorem deliveries_repeat_one_call (hserves : h.Serves ledgers effect) (q : HubRequest)
    (doors : List Door) (s : σ) : h.Repeats ledgers effect q doors s := by
  have hsame : ∀ {door c}, h.callAt q door = some c →
      ∀ c' ∈ doors.filterMap (h.callAt q), c' = c := by
    intro door c hc c' hc'
    obtain ⟨door', -, hc'⟩ := List.mem_filterMap.1 hc'
    exact callAt_unique hc hc'
  exact {
    each := deliverAll_ledgers hserves q doors s
    same := fun {door c} hc => by
      obtain ⟨q', -, -, hcall⟩ := of_callAt hc
      exact ⟨hsame hc, of_callFor hcall⟩
    once := fun {door c} hdoor hc hagain => by
      rw [deliverAll_ledgers hserves, deliver_ledgers hserves, hc, Option.elim_some]
      -- The first call leaves the ledgers as the others find them.
      have hcalls := hsame hc
      have hmade : c ∈ doors.filterMap (h.callAt q) := List.mem_filterMap.2 ⟨door, hdoor, hc⟩
      cases hlist : doors.filterMap (h.callAt q) with
      | nil => simp [hlist] at hmade
      | cons c' calls =>
        rw [hlist] at hcalls
        obtain ⟨rfl, hcalls⟩ := List.forall_mem_cons.1 hcalls
        exact foldl_unchanged hcalls hagain }

/-! ### A hub with one chain -/

/-- A hub that hosts one chain on a ledger in memory, and knows another one. -/
def onePlace : HubService MemoryLedger :=
  let signatures : Signatures := ⟨fun _ _ => .ok [8], fun _ _ _ => .ok true⟩
  let executor : HubExecutor MemoryLedger :=
    { registry :=
        ⟨[(⟨"A"⟩, .remote ⟨"hub", "http://a"⟩), (⟨"B"⟩, .hosted ⟨"router", "proxy"⟩)]⟩
      signatures
      ledger := fun _ => MemoryLedger.ledger }
  { executor
    client := { signatures, connector := .standard .unreachable executor, now := pure 1 } }

/-- Its ledger, with one contract on the chain. -/
def onePlaceLedger : MemoryLedger :=
  ⟨[(⟨"B"⟩, (Chain.new "router" "proxy").deploy "code" fun _ _ => .ok [7])]⟩

/-- A request for that contract. -/
def onePlaceRequest : HubRequest where
  origin := ⟨"A"⟩
  destination := ⟨"B"⟩
  transactionId := "1"
  stepId := "1"
  payload := InvokePayload.encode ⟨none, "code", "f", [], none⟩
  signer := [8]
  timestamp := 0

/-- The call that it leads to. -/
def onePlaceCall : Invocation where
  contract := "proxy"
  function := Contract.proxyCall
  args := [Utf8.encode "code", Utf8.encode "f", Utf8.encode "[]"]

/-- The calls that the chain has carried out after some deliveries. -/
def onePlaceCalls (doors : List Door) : Option (List Invocation) :=
  ((onePlace.deliverAll onePlaceRequest doors onePlaceLedger).chain? ⟨"B"⟩).map Chain.invocations

theorem one_place_repeats :
    onePlace.Repeats id (fun chain call l => ((MemoryLedger.ledger.invoke chain call).perform l).2)
        onePlaceRequest [.executor, .service] onePlaceLedger ∧
      onePlace.callAt onePlaceRequest .service = some (⟨"B"⟩, onePlaceCall) := by
  have hserves : onePlace.Serves id fun chain call l =>
      ((MemoryLedger.ledger.invoke chain call).perform l).2 :=
    serves_of_standard rfl (fun _ _ _ => rfl) (fun _ => rfl) fun _ _ _ => rfl
  exact ⟨deliveries_repeat_one_call hserves _ _ _, by decide +kernel⟩

/-- The second delivery of a request makes the chain carry out the same call a
second time. -/
theorem second_delivery_calls_again :
    onePlaceCalls [.executor] = some [onePlaceCall] ∧
      onePlaceCalls [.executor, .service] = some [onePlaceCall, onePlaceCall] := by
  decide +kernel

end RelayHub.HubService
