/-
What the calling side of a hub does with a request.

The request is signed and stamped, sent, and the response is looked at; only
sending does anything to the state, apart from asking for the time.
-/
import RelayHub.Hub.Client
import RelayHub.Proofs.Retry.Backoff

set_option autoImplicit false

namespace RelayHub

/-- There is nothing wrong with a signature that verifies, and only with such a
one. -/
theorem Signatures.objection_eq_none_iff {s : Signatures} {chain : ChainId}
    {signature digest : Bytes} :
    s.objection? chain signature digest = none ↔ s.verify chain signature digest = .ok true := by
  unfold objection?
  split <;> simp [*]

namespace HubClient

open RelayHub.Action

variable {σ : Type}

/-- A request without a signer gets the signature of its chain, and nothing else
of it changes. -/
theorem signed_eq {c : HubClient σ} {q signed : HubRequest} (h : c.signed q = .ok signed) :
    signed = { q with signer := signed.signer } ∧ (q.signer ≠ [] → signed.signer = q.signer) ∧
      (q.signer = [] → c.signatures.sign q.origin q.payload = .ok signed.signer) := by
  unfold HubClient.signed at h
  split at h
  · rename_i hempty
    split at h <;> cases h
    exact ⟨rfl, fun hne => absurd (List.isEmpty_iff.1 hempty) hne, fun _ => ‹_›⟩
  · rename_i hsigner
    cases h
    exact ⟨rfl, fun _ => rfl, fun hempty => absurd (List.isEmpty_iff.2 hempty) hsigner⟩

/-- A request keeps its chains and its payload when it is signed. -/
theorem of_signed {c : HubClient σ} {q signed : HubRequest} (h : c.signed q = .ok signed) :
    signed.origin = q.origin ∧ signed.destination = q.destination ∧
      signed.payload = q.payload := by
  rw [(signed_eq h).1]
  exact ⟨rfl, rfl, rfl⟩

/-- Only the time of a request changes when it is stamped. -/
theorem stamped_eq (c : HubClient σ) (q : HubRequest) (s : σ) :
    (c.stamped q s).1 = { q with timestamp := (c.stamped q s).1.timestamp } := by
  unfold stamped
  split <;> rfl

/-- A response is accepted if it answers the request and the destination has
signed it, and not otherwise. -/
theorem objection_eq_none_iff {c : HubClient σ} {q : HubRequest} {r : HubResponse} :
    c.objection? q r = none ↔ r.destination = q.destination ∧ r.origin = q.origin ∧
      r.transactionId = q.transactionId ∧ r.stepId = q.stepId ∧
      c.signatures.verify q.destination r.signer r.payload = .ok true := by
  unfold objection?
  split
  · simp [*]
  · rename_i hdestination
    rw [Decidable.not_not] at hdestination
    split
    · rename_i hids
      simp only [reduceCtorEq, false_iff]
      rintro ⟨-, horigin, htransaction, hstep, -⟩
      exact hids.elim (· horigin) (Or.elim · (· htransaction) (· hstep))
    · rename_i hids
      simp only [not_or, Decidable.not_not] at hids
      rw [Signatures.objection_eq_none_iff, HubResponse.signerChain, hdestination]
      simp [hids]

/-- All that is done with a request, step by step. -/
theorem invoke_perform (c : HubClient σ) (q : HubRequest) (s : σ) : (c.invoke q).perform s =
    match c.signed q with
    | .error e => (.error e, s)
    | .ok signed =>
      let (stamped, s) := c.stamped signed s
      match (c.send stamped).perform s with
      | (.error e, s) => (.error e, s)
      | (.ok r, s) =>
        match c.objection? stamped r with
        | none => (.ok r, s)
        | some e => (.error e, s) := by
  rw [invoke, perform_bind, perform_ofExcept]
  cases c.signed q with
  | error e => rfl
  | ok signed =>
    dsimp only
    rw [perform_bind]
    change ((c.send (c.stamped signed s).1 >>= fun r =>
      match c.objection? (c.stamped signed s).1 r with
      | none => pure r
      | some e => throw e).perform (c.stamped signed s).2) = _
    -- What is sent and what is held against the answer is the stamped request, so it is
    -- named before the cases.
    obtain ⟨stamped, s₁⟩ := c.stamped signed s
    dsimp only
    rcases hs : (c.send stamped).perform s₁ with ⟨e | r, s₂⟩
    · rw [perform_bind_error hs]
    · rw [perform_bind_ok hs]
      dsimp only
      cases c.objection? stamped r <;> rfl

/-- What a client accepts answers the request and is signed by its
destination. -/
theorem of_invoke_ok {c : HubClient σ} {q : HubRequest} {s : σ} {r : HubResponse}
    (h : ((c.invoke q).perform s).1 = .ok r) :
    r.destination = q.destination ∧ r.origin = q.origin ∧ r.transactionId = q.transactionId ∧
      r.stepId = q.stepId ∧ c.signatures.verify q.destination r.signer r.payload = .ok true := by
  rw [invoke_perform] at h
  cases hsigned : c.signed q with
  | error e =>
    rw [hsigned] at h
    cases h
  | ok signed =>
    rw [hsigned] at h
    dsimp only at h
    have hstamp := stamped_eq c signed s
    rcases hstamped : c.stamped signed s with ⟨stamped, s₁⟩
    rw [hstamped] at h hstamp
    dsimp only at h hstamp
    rcases hsend : (c.send stamped).perform s₁ with ⟨e | answer, s₂⟩
    · rw [hsend] at h
      cases h
    · rw [hsend] at h
      dsimp only at h
      cases hanswer : c.objection? stamped answer with
      | some e =>
        rw [hanswer] at h
        cases h
      | none =>
        rw [hanswer] at h
        cases h
        -- What was sent differs from the request by signer and time only.
        rw [hstamp, (signed_eq hsigned).1] at hanswer
        exact objection_eq_none_iff.1 hanswer

/-- A call that does not run out of time is made once. -/
theorem send_once {c : HubClient σ} {q : HubRequest} {s : σ}
    (h : ∀ e, ((c.call q).perform s).1 = .error e → e.isDeadlineExceeded = false) :
    (c.send q).perform s = (c.call q).perform s := by
  have honce : policy.run HubError.isDeadlineExceeded (c.call q) redials s
      = (⟨((c.call q).perform s).1, true, [], 0⟩, ((c.call q).perform s).2) :=
    Delays.run_once h _ _ _
  rw [send, perform_of, honce]

/-- What a call leaves alone, all calls leave alone. -/
theorem send_keeps {γ : Type} {view : σ → γ} {c : HubClient σ} {q : HubRequest}
    (h : Keeps view (c.call q)) : Keeps view (c.send q) :=
  fun s _ _ hs => by cases hs; exact Delays.run_keeps h _ _ _ s

/-- A call leaves alone what dialling and the connection leave alone. -/
theorem call_keeps {γ : Type} {view : σ → γ} {c : HubClient σ} {q : HubRequest}
    (hconnect : Keeps view (c.connector.connect q.destination))
    (hconnection : ∀ {s s' api}, (c.connector.connect q.destination).perform s = (.ok api, s') →
      Keeps view (api q)) : Keeps view (c.call q) := by
  intro s s' r hs
  rcases of_perform_bind hs with ⟨e, he, -⟩ | ⟨api, s₁, hapi, hcall⟩
  · exact hconnect he
  · rw [hconnection hapi hcall, hconnect hapi]

end HubClient

end RelayHub
