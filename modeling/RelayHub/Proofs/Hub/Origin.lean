/-
Calls on the chain that a request comes from.

A hub turns away a request of a chain to itself, at both of its doors. What is looked at
there is the destination, but the chain whose contract is called can be named by the
payload, and whether that is the origin is looked at nowhere. So a request is carried
out on its own chain just when its payload names that chain; every other call that it
leads to is on another one.
-/
import RelayHub.Proofs.Hub.Authentic

set_option autoImplicit false

namespace RelayHub

open RelayHub.Action

variable {σ : Type}

/-! ## Payloads that name the origin -/

/-- The payload of the request names the chain that the request comes from. -/
def HubRequest.NamesOrigin (q : HubRequest) : Prop :=
  q.origin.name ≠ "" ∧ ∃ p, InvokePayload.decode q.payload = .ok p ∧ p.channel = some q.origin.name

namespace HubExecutor

variable {x : HubExecutor σ} {q : HubRequest}

/-- The target of a request for another chain is its origin if the payload says so. -/
theorem target_eq_origin_iff (h : q.origin ≠ q.destination) (p : InvokePayload) :
    target q p = q.origin ↔ q.origin.name ≠ "" ∧ p.channel = some q.origin.name := by
  unfold target
  cases p.channel with
  | none => simpa using Ne.symm h
  | some channel =>
    dsimp only
    by_cases hempty : channel = ""
    · subst hempty
      simp [Ne.symm h]
    · have hfilled : channel.isEmpty = false := by simpa using hempty
      rw [hfilled, if_neg (by decide)]
      constructor
      · intro htarget
        rw [← htarget]
        exact ⟨hempty, rfl⟩
      · rintro ⟨-, heq⟩
        exact congrArg ChainId.mk (Option.some.inj heq)

theorem Authentic.on_origin_iff {c : LedgerCall} (h : x.Authentic q c) :
    c.chain = q.origin ↔ q.NamesOrigin := by
  obtain ⟨p, hread, hchain, -⟩ := h.asked
  rw [hchain, target_eq_origin_iff h.apart]
  constructor
  · rintro ⟨hne, hchannel⟩
    exact ⟨hne, p, hread, hchannel⟩
  · rintro ⟨hne, p', hread', hchannel⟩
    obtain rfl := Except.ok.inj (hread.symm.trans hread')
    exact ⟨hne, hchannel⟩

/-- What is sent for a request makes one call at most, and on the request's origin only
if its payload names it. -/
theorem callsMade_on_origin (x : HubExecutor σ) {sent : HubRequest} (horigin : sent.origin = q.origin)
    (hpayload : sent.payload = q.payload) (s : σ) :
    (x.callsMade sent s).length ≤ 1 ∧
      ∀ c ∈ x.callsMade sent s, (c.chain = q.origin ↔ q.NamesOrigin) := by
  have hnames : sent.NamesOrigin ↔ q.NamesOrigin := by
    unfold HubRequest.NamesOrigin
    rw [horigin, hpayload]
  unfold callsMade
  cases hcall : x.callFor sent with
  | none => exact ⟨by simp, by simp⟩
  | some c =>
    refine ⟨Nat.le_refl 1, fun made hmade => ?_⟩
    obtain rfl := List.mem_singleton.1 hmade
    rw [← horigin, ← hnames]
    exact (authentic_of_callFor hcall _).on_origin_iff

theorem callsMade_of_not_local (h : x.registry.isLocal q.destination = false) (s : σ) :
    x.callsMade q s = [] := by
  rw [callsMade, callFor_of_not_local h]
  rfl

end HubExecutor

/-! ## A hub by itself -/

namespace HubService

open HubExecutor

/-- A hub that reaches the chains it hosts within itself, and no others. -/
def looped (x : HubExecutor σ) (signatures : Signatures) (now : StateM σ Int64) : HubService σ where
  executor := x
  client := ⟨signatures, .loopback x, now⟩

/-- The same hub, whose ledgers take notes. -/
def loopedNoted (x : HubExecutor σ) (signatures : Signatures) (now : StateM σ Int64) :
    HubService (σ × List LedgerCall) :=
  looped x.noted signatures fun (s, calls) => let (time, s) := now s; (time, s, calls)

variable (x : HubExecutor σ) (signatures : Signatures) (now : StateM σ Int64)

/-- Such a hub sends what it executes itself. -/
theorem looped_send (q : HubRequest) (s : σ) :
    ((looped x signatures now).client.send q).perform s =
      if x.registry.isLocal q.destination then (x.execute q).perform s
      else (.error (notHosted q.destination), s) := by
  have hcall : ((looped x signatures now).client.call q).perform s =
      if x.registry.isLocal q.destination then (x.execute q).perform s
      else (.error (notHosted q.destination), s) := by
    rw [HubClient.call, perform_bind]
    cases hlocal : x.registry.isLocal q.destination with
    | true =>
      have hconnect : (looped x signatures now).client.connector.connect q.destination
          = Action.ofExcept (.ok x.execute) := Connector.loopback_connect hlocal
      rw [hconnect]
      rfl
    | false =>
      have hconnect : (looped x signatures now).client.connector.connect q.destination
          = Action.ofExcept (.error (notHosted q.destination)) := by
        change (Connector.loopback x).connect q.destination = _
        rw [Connector.loopback]
        dsimp only
        rw [hlocal]
        rfl
      rw [hconnect]
      rfl
  rw [HubClient.send_once, hcall]
  intro e he
  rw [hcall] at he
  split at he
  · exact execute_not_late he
  · cases he
    rfl

/-- What it sends it does as without notes, and the notes show the call. -/
theorem looped_noted_send (q : HubRequest) (s : σ) (calls : List LedgerCall) :
    ((loopedNoted x signatures now).client.send q).perform (s, calls)
      = ((((looped x signatures now).client.send q).perform s).1,
          (((looped x signatures now).client.send q).perform s).2, calls ++ x.callsMade q s) := by
  rw [loopedNoted, looped_send, looped_send]
  change (if x.registry.isLocal q.destination then (x.noted.execute q).perform (s, calls)
    else _) = _
  cases hlocal : x.registry.isLocal q.destination with
  | true => exact noted_execute x q s calls
  | false =>
    rw [callsMade_of_not_local hlocal, List.append_nil]
    rfl

/-- The calls that the calling side makes for a request: those of what it sends. -/
def callsSent (q : HubRequest) (s : σ) : List LedgerCall :=
  match (looped x signatures now).client.signed q with
  | .error _ => []
  | .ok signed =>
    x.callsMade ((looped x signatures now).client.stamped signed s).1
      ((looped x signatures now).client.stamped signed s).2

/-- The calls that a request leads to that is delivered at a door. -/
def callsDelivered (q : HubRequest) (s : σ) : Door → List LedgerCall
  | .executor => x.callsMade q s
  | .service =>
    if q.origin = q.destination then []
    else if x.registry.isLocal q.origin then callsSent x signatures now q s
    else x.callsMade q s

theorem looped_noted_invoke (q : HubRequest) (s : σ) (calls : List LedgerCall) :
    ((loopedNoted x signatures now).client.invoke q).perform (s, calls)
      = ((((looped x signatures now).client.invoke q).perform s).1,
          (((looped x signatures now).client.invoke q).perform s).2,
          calls ++ callsSent x signatures now q s) := by
  have hsigned : (loopedNoted x signatures now).client.signed q
      = (looped x signatures now).client.signed q := rfl
  rw [HubClient.invoke_perform, HubClient.invoke_perform, hsigned, callsSent]
  cases (looped x signatures now).client.signed q with
  | error e => simp
  | ok signed =>
    have hstamped : (loopedNoted x signatures now).client.stamped signed (s, calls)
        = (((looped x signatures now).client.stamped signed s).1,
            ((looped x signatures now).client.stamped signed s).2, calls) := by
      unfold HubClient.stamped
      split <;> rfl
    dsimp only
    rw [hstamped]
    obtain ⟨sent, s₁⟩ := (looped x signatures now).client.stamped signed s
    dsimp only
    rw [looped_noted_send]
    -- What is held against an answer does not depend on notes.
    have hobjection (r : HubResponse) : (loopedNoted x signatures now).client.objection? sent r
        = (looped x signatures now).client.objection? sent r := rfl
    rcases ((looped x signatures now).client.send sent).perform s₁ with ⟨e | r, s₂⟩
    · rfl
    · dsimp only
      rw [hobjection]
      cases (looped x signatures now).client.objection? sent r <;> rfl

/-- A delivery does what it does without notes, and the notes show its calls. -/
theorem looped_noted_deliver (q : HubRequest) (door : Door) (s : σ) (calls : List LedgerCall) :
    ((loopedNoted x signatures now).deliver q door).perform (s, calls)
      = ((((looped x signatures now).deliver q door).perform s).1,
          (((looped x signatures now).deliver q door).perform s).2,
          calls ++ callsDelivered x signatures now q s door) := by
  cases door with
  | executor => exact noted_execute x q s calls
  | service =>
    rw [deliver, deliver, invoke, invoke, callsDelivered]
    by_cases hsame : q.origin = q.destination
    · rw [if_pos hsame, if_pos hsame, if_pos hsame]
      simp
    · rw [if_neg hsame, if_neg hsame, if_neg hsame]
      have hnoted : (loopedNoted x signatures now).executor.registry.isLocal q.origin
          = x.registry.isLocal q.origin := rfl
      have hplain : (looped x signatures now).executor.registry.isLocal q.origin
          = x.registry.isLocal q.origin := rfl
      rw [hnoted, hplain]
      split
      · exact looped_noted_invoke x signatures now q s calls
      · exact noted_execute x q s calls

theorem callsDelivered_on_origin (q : HubRequest) (s : σ) (door : Door) :
    (callsDelivered x signatures now q s door).length ≤ 1 ∧
      ∀ c ∈ callsDelivered x signatures now q s door, (c.chain = q.origin ↔ q.NamesOrigin) := by
  have hown : (x.callsMade q s).length ≤ 1 ∧
      ∀ c ∈ x.callsMade q s, (c.chain = q.origin ↔ q.NamesOrigin) :=
    callsMade_on_origin x rfl rfl s
  cases door with
  | executor => exact hown
  | service =>
    rw [callsDelivered]
    split
    · exact ⟨by simp, by simp⟩
    split
    · unfold callsSent
      cases hq : (looped x signatures now).client.signed q with
      | error e => exact ⟨by simp, by simp⟩
      | ok signed =>
        obtain ⟨horigin, -, hpayload⟩ := HubClient.of_signed hq
        have hsame := HubClient.stamped_eq (looped x signatures now).client signed s
        refine callsMade_on_origin x ?_ ?_ _
        · rw [hsame, horigin]
        · rw [hsame, hpayload]
    · exact hown

/-- Through either door a request makes one call at most, and that is on the chain it comes
from just when its payload names this chain. -/
theorem calls_on_origin_are_named (q : HubRequest) (door : Door) (s : σ) (calls : List LedgerCall) :
    ∃ made,
      ((loopedNoted x signatures now).deliver q door).perform (s, calls)
        = ((((looped x signatures now).deliver q door).perform s).1,
            (((looped x signatures now).deliver q door).perform s).2, calls ++ made) ∧
      made.length ≤ 1 ∧ ∀ c ∈ made, (c.chain = q.origin ↔ q.NamesOrigin) :=
  ⟨_, looped_noted_deliver x signatures now q door s calls,
    callsDelivered_on_origin x signatures now q s door⟩

end HubService

/-! ### A request that comes back

A chain of a hub with two chains asks the other one, and names itself as the channel. -/

namespace Pair

/-- A hub of both chains of the pair. -/
def hubAB (suite : Suite) : HubExecutor MemoryLedger where
  registry :=
    ⟨[(chainA, .hosted ⟨"router", "proxy"⟩), (chainB, .hosted ⟨"router", "proxy"⟩)]⟩
  signatures := (TrustStore.mk [(chainA, keyA), (chainB, keyB)]).signatures suite
  ledger _ := MemoryLedger.ledger

/-- Its ledger, with one contract on the chain that asks. -/
def ledgerAB : MemoryLedger :=
  ⟨[(chainA, (Chain.new "router" "proxy").deploy "fabcar" fun _ _ => .ok [7]),
    (chainB, Chain.new "router" "proxy")]⟩

/-- The request, with the signature of its chain. -/
def returningRequest : HubRequest :=
  { signedRequest with
    payload := InvokePayload.encode ⟨some "A", "fabcar", "QueryCar", ["CAR1"], none⟩
    signer := Bytes.ofNat 64
      0x707e0473e5f9d3af0974b027eb442f321423b4c8115a1184d05431729766b722dca3038d74f7f50a34c8a6432c35e8dc377355dd16f5691878505f8cb36ee263 }

/-- The call that it leads to, with what comes of it. -/
def returnedCall : LedgerCall :=
  ⟨chainA, signedCall, ((MemoryLedger.ledger.invoke chainA signedCall).perform ledgerAB).1⟩

end Pair

open Pair in
/-- It is carried out on the chain that it comes from, at either door. -/
theorem HubService.returning_request_calls_origin :
    returningRequest.origin = chainA ∧ returningRequest.destination = chainB ∧
      ∀ door, ∃ c,
        (((loopedNoted (hubAB .standard) (hubAB .standard).signatures (pure 1)).deliver
          returningRequest door).perform (ledgerAB, [])).2.2 = [c] ∧
        c.chain = returningRequest.origin ∧ c.call = signedCall := by
  have hcall : (hubAB .standard).callFor returningRequest = some (chainA, signedCall) := by
    decide +kernel
  have hmade : (hubAB .standard).callsMade returningRequest ledgerAB = [returnedCall] := by
    rw [HubExecutor.callsMade, hcall]
    rfl
  refine ⟨rfl, rfl, fun door => ⟨returnedCall, ?_, rfl, rfl⟩⟩
  rw [looped_noted_deliver, List.nil_append, ← hmade]
  cases door with
  | executor =>
    dsimp only
    rw [callsDelivered]
  | service =>
    -- The request has a signer and a time, so the calling side sends it as it is.
    have hapart : returningRequest.origin ≠ returningRequest.destination := by decide
    have hlocal : (hubAB .standard).registry.isLocal returningRequest.origin = true := by decide
    have hsigned : (looped (hubAB .standard) (hubAB .standard).signatures (pure 1)).client.signed
        returningRequest = .ok returningRequest := rfl
    have htime : ¬ returningRequest.timestamp = 0 := by decide
    have hstamped : (looped (hubAB .standard) (hubAB .standard).signatures (pure 1)).client.stamped
        returningRequest ledgerAB = (returningRequest, ledgerAB) := if_neg htime
    dsimp only
    rw [callsDelivered, if_neg hapart, if_pos hlocal, callsSent, hsigned]
    dsimp only
    rw [hstamped]

end RelayHub
