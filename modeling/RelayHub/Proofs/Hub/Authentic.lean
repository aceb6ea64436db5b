/-
Every call that a hub makes for another chain is authentic.

A ledger is called for a request of another chain only if that chain has signed
the request, and then once, with what the payload says. `Authentic` lists what
stands behind such a call. It is read off the notes of a ledger that may do
anything, so it holds of requests that fail every check as well as of those that
fail none.
-/
import RelayHub.Hub.Service
import RelayHub.Ledger.Memory
import RelayHub.Proofs.Hub.Delivery
import RelayHub.Proofs.Hub.Notes
import RelayHub.Proofs.Message.Contract
import RelayHub.Proofs.Trust.Store

set_option autoImplicit false

namespace RelayHub

open RelayHub.Action Json

variable {σ : Type}

theorem Registry.isLocal_of_hosted {r : Registry} {chain : ChainId} {contracts : LocalChain}
    (h : r.hosted chain = .ok contracts) : r.isLocal chain = true := by
  unfold hosted at h
  unfold isLocal
  split at h
  · rw [‹r.role? chain = _›]
    rfl
  · cases h
  · cases h

namespace HubExecutor

/-- What stands behind a call made for a request. -/
structure Authentic (x : HubExecutor σ) (q : HubRequest) (c : LedgerCall) : Prop where
  /-- The request is for another chain than it comes from. -/
  apart : q.origin ≠ q.destination
  /-- That chain is hosted here. -/
  hosted : x.registry.isLocal q.destination = true
  /-- The chain it comes from has signed its payload. -/
  signed : x.signatures.verify q.origin q.signer q.payload = .ok true
  /-- The call is the one that the payload asks for, of the proxy contract of
  its target, and its arguments say what the payload says. -/
  asked : ∃ p, InvokePayload.decode q.payload = .ok p ∧ c.chain = target q p ∧
    x.registry.isLocal c.chain = true ∧
    (∃ hosted, x.registry.hosted c.chain = .ok hosted ∧ c.call.contract = hosted.proxy) ∧
    c.call.function = Contract.proxyCall ∧
    ∃ json, c.call.args = [Utf8.encode p.chaincode, Utf8.encode p.function, json] ∧
      Codec.text.list.decode json = .ok p.args

variable {x : HubExecutor σ} {q : HubRequest}

/-- The call of a request that passes the checks is authentic. -/
theorem authentic_of_callFor {chain : ChainId} {call : Invocation}
    (h : x.callFor q = some (chain, call)) (outcome : Except LedgerError ContractResponse) :
    x.Authentic q ⟨chain, call, outcome⟩ := by
  unfold callFor at h
  split at h
  · cases h
  · rename_i p hp
    obtain ⟨hapart, hlocal, hsigned, hread⟩ := of_accept_ok hp
    split at h
    · cases h
    · rename_i hosted hhosted
      cases h
      exact {
        apart := hapart
        hosted := hlocal
        signed := Signatures.objection_eq_none_iff.1 hsigned
        asked := ⟨p, hread, rfl, Registry.isLocal_of_hosted hhosted, ⟨hosted, hhosted, rfl⟩, rfl,
          _, rfl, (Codec.list_faithful Codec.text_faithful).decode_write p.args⟩ }

/-- A request that could have an authentic call has one. -/
theorem callFor_ne_none {c : LedgerCall} (h : x.Authentic q c) : x.callFor q ≠ none := by
  obtain ⟨p, hread, hchain, -, ⟨hosted, hhosted, -⟩, -⟩ := h.asked
  have haccept : x.accept q = .ok p := by
    rw [accept_eq, if_neg h.apart, if_neg (by simp [h.hosted]),
      Signatures.objection_eq_none_iff.2 h.signed, hread]
    rfl
  rw [callFor, haccept]
  dsimp only
  rw [← hchain, hhosted]
  simp

end HubExecutor

namespace HubService

open HubExecutor

/-- A request of a chain that is not hosted here is for the executor, whichever
way it comes in. -/
theorem deliver_foreign {h : HubService σ} {q : HubRequest} {door : Door}
    (hforeign : door = .service → h.executor.registry.isLocal q.origin = false) (s : σ) :
    (h.deliver q door).perform s = (h.executor.execute q).perform s := by
  cases door with
  | executor => rfl
  | service =>
    rw [deliver, invoke]
    split
    · rename_i hsame
      rw [execute_perform, accept_eq, if_pos hsame]
      rfl
    · rw [if_neg (by simp [hforeign rfl])]

/-- A request of another chain leads to one ledger call at most, and every call
is authentic; a request that could have an authentic call has one. The notes
that show it change nothing. -/
theorem calls_are_authentic (x : HubExecutor σ) (client : HubClient (σ × List LedgerCall))
    (q : HubRequest) (door : Door)
    (hforeign : door = .service → x.registry.isLocal q.origin = false) (s : σ)
    (calls : List LedgerCall) :
    ∃ made,
      (deliver ⟨x.noted, client⟩ q door).perform (s, calls)
        = (((x.execute q).perform s).1, ((x.execute q).perform s).2, calls ++ made) ∧
      made.length ≤ 1 ∧ (∀ c ∈ made, x.Authentic q c) ∧
      ((∃ c, x.Authentic q c) → made ≠ []) := by
  refine ⟨x.callsMade q s, ?_, ?_⟩
  · rw [deliver_foreign hforeign]
    exact noted_execute x q s calls
  · unfold callsMade
    cases hcall : x.callFor q with
    | none => exact ⟨by simp, by simp, fun ⟨c, hc⟩ => absurd hcall (callFor_ne_none hc)⟩
    | some c => exact ⟨by simp, by simpa using authentic_of_callFor hcall _, by simp⟩

end HubService

/-! ### A signed request

A request of one chain of the pair arrives at the hub of the other one, which
holds only the public key of the first. -/

namespace Pair

/-- The hub of the chain that is asked. -/
def hubB (suite : Suite) : HubExecutor MemoryLedger where
  registry :=
    ⟨[(chainA, .remote ⟨"hub", "http://a"⟩), (chainB, .hosted ⟨"router", "proxy"⟩)]⟩
  signatures := (trustB suite).signatures suite
  ledger _ := MemoryLedger.ledger

/-- Its ledger, with one contract on the chain. -/
def ledgerB : MemoryLedger :=
  ⟨[(chainB, (Chain.new "router" "proxy").deploy "fabcar" fun _ _ => .ok [7])]⟩

/-- The calling side of a hub without a network. -/
def idleClient {σ : Type} : HubClient σ where
  signatures := (TrustStore.empty).signatures .standard
  connector := ⟨fun _ => throw ⟨.unavailable, "no network"⟩⟩
  now := pure 1

/-- A request with the signature of its chain. -/
def signedRequest : HubRequest where
  origin := chainA
  destination := chainB
  transactionId := "tx-1"
  stepId := "1"
  payload := InvokePayload.encode ⟨none, "fabcar", "QueryCar", ["CAR1"], none⟩
  signer := Bytes.ofNat 64
    0x8c66697073782820f0de36481d895a871bea017cea29f6419bcfa389c02ea8fb5f635529db255de1aaed6a37471c5a35fca76054ce329669237506afb96b2016
  timestamp := 5

/-- The call that it leads to. -/
def signedCall : Invocation where
  contract := "proxy"
  function := Contract.proxyCall
  args := [Utf8.encode "fabcar", Utf8.encode "QueryCar", Utf8.encode "[\"CAR1\"]"]

end Pair

open Pair in
theorem HubService.signed_request_makes_authentic_call :
    (hubB .standard).registry.isLocal chainA = false ∧
      ∃ made,
        (deliver ⟨(hubB .standard).noted, idleClient⟩ signedRequest .service).perform (ledgerB, [])
          = ((((hubB .standard).execute signedRequest).perform ledgerB).1,
              (((hubB .standard).execute signedRequest).perform ledgerB).2, made) ∧
        made.length ≤ 1 ∧ (∀ c ∈ made, (hubB .standard).Authentic signedRequest c) ∧
        made ≠ [] := by
  have hcall : (hubB .standard).callFor signedRequest = some (chainB, signedCall) := by
    decide +kernel
  obtain ⟨made, hdone, hone, hall, hsome⟩ :=
    calls_are_authentic (hubB .standard) idleClient signedRequest .service (fun _ => rfl) ledgerB []
  exact ⟨rfl, made, hdone, hone, hall,
    hsome ⟨_, HubExecutor.authentic_of_callFor hcall (.error (.unknownChain chainB))⟩⟩

end RelayHub
