/-
Which answers a relay goes on with.

A relay takes the answer to an operation if the operation got what it was tried
for, and else tries it again. For a request that is what the store, the
destination or the contract granted; for a block it is the block, or that it was
stored. There is nothing else that an answer decides, so all that the relay does
with a block heeds what landed.
-/
import RelayHub.Proofs.Relay.Course
import RelayHub.Proofs.Retry.Disturbance

set_option autoImplicit false

namespace RelayHub

open Script

/-- Whether a deed of a request was granted: the store did it, the destination
settled it, the contract carried it out. -/
def Deed.granted : Deed → Bool
  | ⟨.hasSeen _, answer⟩ => (succeeded answer).isSome
  | ⟨.dispatch _, answer⟩ => (Accept.settled answer).isSome
  | ⟨.recordSeen _, answer⟩ => (succeeded answer).isSome
  | ⟨.invoke _, answer⟩ => (Accept.carriedOut answer).isSome
  | _ => true

/-- Whether a deed got what it was tried for. -/
def Deed.landed : Deed → Bool
  | ⟨.latest, answer⟩ => (succeeded answer).isSome
  | ⟨.query number, answer⟩ => (succeeded (Cursor.checked number answer)).isSome
  | ⟨.storeBlock _, answer⟩ => (succeeded answer).isSome
  | t => t.granted

open Deed

theorem Deed.landed_eq_granted {t : Deed} (h : t.op.forRequests = true) : t.landed = t.granted := by
  obtain ⟨op, answer⟩ := t
  cases op with
  | latest => cases h
  | query number => cases h
  | storeBlock block => cases h
  | _ => rfl

/-- A contract call that was carried out landed. -/
theorem Deed.carriedOut?_eq_none {t : Deed} (h : t.landed = false) : t.carriedOut? = none := by
  unfold carriedOut?
  split
  · rename_i call response
    change (Accept.carriedOut (.ok response)).isSome = false at h
    rw [Accept.carriedOut] at h
    cases hok : response.isOk with
    | true =>
      rw [hok] at h
      cases h
    | false => rfl
  · rfl

namespace Relay

/-! ## Requests -/

section Requests

variable {ok : Deed → Bool} (hok : ∀ t : Deed, t.op.forRequests = true → ok t = t.granted)
include hok

theorem heeds_count (counter : Counter) : Heeds ok (count counter) :=
  .insist fun _ => hok _ rfl

theorem heeds_invoke (call : Invocation) : Heeds ok (invoke call) :=
  .insist fun _ => hok _ rfl

theorem heeds_applyResult (relay : Relay) (q : CrossChainRequest) (r : HubResponse) :
    Heeds ok (relay.applyResult q r) := by
  refine .andThen (heeds_invoke hok _) fun _ => ?_
  cases callbackCall? r with
  | none => exact .done ()
  | some call => exact heeds_invoke hok call

/-- A request goes on with every answer that is granted, and with no other. -/
theorem heeds_relayRequest (relay : Relay) (q : CrossChainRequest) :
    Heeds ok (relay.relayRequest q) := by
  unfold relayRequest
  split
  · exact heeds_count hok _
  · refine .andThen (.insist fun _ => hok _ rfl) fun seen => ?_
    split
    · exact heeds_count hok _
    · refine .andThen (.insist fun _ => hok _ rfl) fun settled => ?_
      split
      · exact heeds_count hok _
      · exact .andThen (.insist fun _ => hok _ rfl) fun _ =>
          .andThen (heeds_applyResult hok relay q _) fun _ => heeds_count hok _

end Requests

theorem takes_relayRequest (relay : Relay) (q : CrossChainRequest) :
    Takes granted (relay.relayRequest q) :=
  (heeds_relayRequest (fun _ _ => rfl) relay q).takes

/-! ## Blocks -/

/-- What is done with a block goes on with what landed, and with nothing else. -/
theorem heeds_processBlock (relay : Relay) (b : RawBlock) : Heeds landed (relay.processBlock b) := by
  have hrequests : ∀ t : Deed, t.op.forRequests = true → t.landed = t.granted :=
    fun _ => landed_eq_granted
  refine .andThen (.each fun e _ => ?_) fun _ => .andThen (.insist fun _ => rfl) fun _ =>
    heeds_count hrequests _
  unfold relayEnvelope
  split
  · exact heeds_count hrequests _
  · exact .done ()
  · exact heeds_relayRequest hrequests relay _

end Relay

end RelayHub
