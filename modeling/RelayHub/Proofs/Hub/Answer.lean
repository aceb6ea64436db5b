/-
What the called side of a hub answers, and what is read back from it.

An answer says what came of a call, in a payload that its chain has signed, and
beside the payload stand an error message and the callback of the request. All
three are read back as they were put in: the payload as the contract's answer,
the message as empty for a success alone, the callback as the request's own.
-/
import RelayHub.Proofs.Hub.Executor
import RelayHub.Proofs.Message.Contract

set_option autoImplicit false

namespace RelayHub

open RelayHub.Action Json

variable {σ : Type}

/-! ## Callbacks -/

/-- The bytes of a callback, in a response, are read back as that callback. -/
theorem HubResponse.callbackDescriptor_eq {r : HubResponse} {d? : Option CallbackDescriptor}
    (h : r.callback = d?.map CallbackDescriptor.codec.write) : r.callbackDescriptor = .ok d? := by
  unfold callbackDescriptor
  rw [h]
  cases d? with
  | none => rfl
  | some d =>
    have hread := CallbackDescriptor.codec_faithful.decode_write d
    -- What is written for a callback is never empty, so it does not count as none.
    obtain ⟨b, tail, hwrite, -⟩ := CallbackDescriptor.codec_faithful.opens d
    rw [Option.map_some, hwrite]
    rw [hwrite] at hread
    dsimp only
    rw [hread]
    rfl

namespace HubExecutor

variable {x : HubExecutor σ} {q : HubRequest} {p : InvokePayload} {r : HubResponse}

/-! ## Answers to calls -/

theorem append_ne_empty {s : String} (h : s ≠ "") (t : String) : s ++ t ≠ "" :=
  fun heq => h (String.append_eq_empty_iff.1 heq).1

/-- A ledger that fails says so. -/
theorem message_ne_empty (e : LedgerError) : e.message ≠ "" := by
  unfold LedgerError.message
  split
  · exact append_ne_empty (append_ne_empty (append_ne_empty (by decide) _) _) _
  all_goals exact append_ne_empty (by decide) _

theorem error_status_ne (message : String) :
    (ContractResponse.error message).status ≠ Contract.statusOk := by
  change Contract.statusError ≠ Contract.statusOk
  decide

/-- The error message is empty for a success and for nothing else. -/
theorem answer_message_eq_empty_iff (outcome : Except LedgerError ContractResponse) :
    (answer outcome).2 = "" ↔ (answer outcome).1.status = Contract.statusOk := by
  have herror : ∀ m : String, m ≠ "" →
      (m = "" ↔ (ContractResponse.error m).status = Contract.statusOk) :=
    fun m hm => iff_of_false hm (error_status_ne m)
  cases outcome with
  | error e => exact herror _ (message_ne_empty e)
  | ok response =>
    unfold answer
    dsimp only
    split
    · rename_i hok
      exact iff_of_true rfl (by simpa [ContractResponse.isOk] using hok)
    -- A failure without a message of its own gets one.
    · refine herror _ ?_
      split
      · exact append_ne_empty (by decide) _
      · rename_i hmessage
        simpa using hmessage

/-- A response answers its request and carries what it should, with the
signature of the destination. -/
theorem of_respond_ok {answered : ContractResponse × String} (h : x.respond q p answered = .ok r) :
    r =
      { origin := q.origin
        destination := q.destination
        transactionId := q.transactionId
        stepId := q.stepId
        payload := ContractResponse.codec.write answered.1
        signer := r.signer
        errorMessage := answered.2
        callback := p.callback.map CallbackDescriptor.codec.write } ∧
      x.signatures.sign q.destination r.payload = .ok r.signer := by
  unfold respond at h
  dsimp only at h
  split at h
  · cases h
  · cases h
    exact ⟨rfl, ‹_›⟩

/-- A request that is answered was accepted, and the answer is for what came of
its call. -/
theorem of_execute_ok {s : σ} (h : ((x.execute q).perform s).1 = .ok r) :
    ∃ p outcome, x.accept q = .ok p ∧ x.respond q p (answer outcome) = .ok r := by
  rw [execute_perform] at h
  cases hp : x.accept q with
  | error e =>
    rw [hp] at h
    cases h
  | ok p =>
    rw [hp] at h
    dsimp only at h
    cases hhosted : x.registry.hosted (target q p) with
    | error e =>
      rw [hhosted] at h
      cases h
    | ok hosted =>
      rw [hhosted] at h
      exact ⟨p, _, rfl, h⟩

end HubExecutor

end RelayHub
