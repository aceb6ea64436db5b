/-
What the called side of a hub does with a request.

A request leads to one call of a proxy contract at most, and which call that is
depends on the request and the hub alone: `callFor` is that call, and nothing
that happened before has a part in it. What is done to the state is the call,
and `execute_state` says so; refusals leave the state alone and are never about
time.
-/
import RelayHub.Hub.Executor
import RelayHub.Proofs.Action

set_option autoImplicit false

namespace RelayHub.HubExecutor

open RelayHub.Action

variable {σ : Type} {x : HubExecutor σ} {q : HubRequest}

/-! ## Acceptance -/

/-- The checks in order. -/
theorem accept_eq (x : HubExecutor σ) (q : HubRequest) : x.accept q =
    if q.origin = q.destination then .error (sameChain q.origin)
    else if x.registry.isLocal q.destination = false then .error (notHosted q.destination)
    else
      match x.signatures.objection? q.origin q.signer q.payload with
      | some e => .error e
      | none =>
        (InvokePayload.decode q.payload).mapError fun fault =>
          ⟨.invalidArgument, "malformed payload: " ++ fault.message⟩ := by
  unfold accept
  by_cases hsame : q.origin = q.destination
  · rw [if_pos hsame, if_pos hsame]
    rfl
  · rw [if_neg hsame, if_neg hsame]
    cases hlocal : x.registry.isLocal q.destination with
    | false => rfl
    | true =>
      cases hsigned : x.signatures.objection? q.origin q.signer q.payload with
      | some e => rfl
      | none =>
        dsimp only [bind, Except.bind, pure, Except.pure]
        cases hp : InvokePayload.decode q.payload <;> rfl

/-- What is accepted is signed by another chain, and for a chain hosted here. -/
theorem of_accept_ok {p : InvokePayload} (h : x.accept q = .ok p) :
    q.origin ≠ q.destination ∧ x.registry.isLocal q.destination = true ∧
      x.signatures.objection? q.origin q.signer q.payload = none ∧
      InvokePayload.decode q.payload = .ok p := by
  rw [accept_eq] at h
  split at h
  · cases h
  · split at h
    · cases h
    · split at h
      · cases h
      · cases hp : InvokePayload.decode q.payload with
        | error fault =>
          rw [hp] at h
          cases h
        | ok p' =>
          rw [hp] at h
          cases h
          exact ⟨‹_›, eq_true_of_ne_false ‹_›, ‹_›, rfl⟩

/-- An objection to a signature is about the signature. -/
theorem status_of_objection {s : Signatures} {chain : ChainId} {signature digest : Bytes}
    {e : HubError} (h : s.objection? chain signature digest = some e) :
    e.status = .unauthenticated := by
  unfold Signatures.objection? at h
  split at h <;> cases h <;> rfl

theorem accept_not_late {e : HubError} (h : x.accept q = .error e) :
    e.isDeadlineExceeded = false := by
  rw [accept_eq] at h
  split at h
  · cases h
    rfl
  · split at h
    · cases h
      rfl
    · split at h
      · cases h
        rename_i hsigned
        rw [HubError.isDeadlineExceeded, status_of_objection hsigned]
        rfl
      · cases hp : InvokePayload.decode q.payload with
        | error fault =>
          rw [hp] at h
          cases h
          rfl
        | ok p =>
          rw [hp] at h
          cases h

/-! ## The call -/

/-- The call that a request leads to, if it leads to one: of the proxy contract
of its target. -/
def callFor (x : HubExecutor σ) (q : HubRequest) : Option (ChainId × Invocation) :=
  match x.accept q with
  | .error _ => none
  | .ok p =>
    match x.registry.hosted (target q p) with
    | .error _ => none
    | .ok hosted => some (target q p, proxyCall hosted p)

/-- A request of a chain to itself leads to no call. -/
theorem callFor_of_same (h : q.origin = q.destination) : x.callFor q = none := by
  rw [callFor, accept_eq, if_pos h]

/-- Neither does a request for a chain that is not hosted here. -/
theorem callFor_of_not_local (h : x.registry.isLocal q.destination = false) :
    x.callFor q = none := by
  by_cases hsame : q.origin = q.destination
  · exact callFor_of_same hsame
  · rw [callFor, accept_eq, if_neg hsame, if_pos h]

/-- What is done with a request: the checks, the call, the response. -/
theorem execute_perform (x : HubExecutor σ) (q : HubRequest) (s : σ) : (x.execute q).perform s =
    match x.accept q with
    | .error e => (.error e, s)
    | .ok p =>
      match x.registry.hosted (target q p) with
      | .error e => (.error ⟨.notFound, e.message⟩, s)
      | .ok hosted =>
        let call := (x.ledger (target q p)).invoke (target q p) (proxyCall hosted p)
        (x.respond q p (answer (call.perform s).1), (call.perform s).2) := by
  rw [execute, perform_bind, perform_ofExcept]
  cases x.accept q with
  | error e => rfl
  | ok p =>
    dsimp only
    rw [perform_bind, callProxy, perform_of]
    cases x.registry.hosted (target q p) <;> rfl

/-- A request does its call to the state, and nothing else. -/
theorem execute_state (x : HubExecutor σ) (q : HubRequest) (s : σ) :
    ((x.execute q).perform s).2 =
      match x.callFor q with
      | none => s
      | some (chain, call) => (((x.ledger chain).invoke chain call).perform s).2 := by
  rw [execute_perform, callFor]
  cases x.accept q with
  | error e => rfl
  | ok p =>
    dsimp only
    cases x.registry.hosted (target q p) <;> rfl

/-- The destination and the payload alone decide which call a request leads to,
if it leads to one. -/
theorem callFor_unique {q' : HubRequest} (hdestination : q'.destination = q.destination)
    (hpayload : q'.payload = q.payload) {c c' : ChainId × Invocation} (h : x.callFor q = some c)
    (h' : x.callFor q' = some c') : c' = c := by
  unfold callFor at h h'
  cases hp : x.accept q with
  | error e =>
    rw [hp] at h
    cases h
  | ok p =>
    cases hp' : x.accept q' with
    | error e =>
      rw [hp'] at h'
      cases h'
    | ok p' =>
      -- One payload reads in one way.
      have hsame : p' = p := by
        have hread := (of_accept_ok hp).2.2.2
        have hread' := (of_accept_ok hp').2.2.2
        rw [hpayload, hread] at hread'
        exact (Except.ok.inj hread').symm
      have htarget : target q' p' = target q p := by
        rw [hsame, target.eq_def, target.eq_def, hdestination]
      rw [hp] at h
      rw [hp', hsame] at h'
      dsimp only at h h'
      rw [hsame] at htarget
      rw [htarget, h] at h'
      exact (Option.some.inj h').symm

/-- The call is of the proxy contract of a chain hosted here. -/
theorem of_callFor {chain : ChainId} {call : Invocation} (h : x.callFor q = some (chain, call)) :
    ∃ hosted, x.registry.hosted chain = .ok hosted ∧ call.contract = hosted.proxy ∧
      call.function = Contract.proxyCall := by
  unfold callFor at h
  split at h
  · cases h
  · split at h
    · cases h
    · cases h
      exact ⟨_, ‹_›, rfl, rfl⟩

/-! ## Failures -/

/-- A request that is carried out or refused here does not fail for lack of
time. -/
theorem execute_not_late {s : σ} {e : HubError} (h : ((x.execute q).perform s).1 = .error e) :
    e.isDeadlineExceeded = false := by
  rw [execute_perform] at h
  -- Each step has errors of its own: of the checks, of the lookup, of the ledger.
  cases hp : x.accept q with
  | error e' =>
    rw [hp] at h
    cases h
    exact accept_not_late hp
  | ok p =>
    rw [hp] at h
    dsimp only at h
    cases hhosted : x.registry.hosted (target q p) with
    | error e' =>
      rw [hhosted] at h
      cases h
      rfl
    | ok hosted =>
      rw [hhosted] at h
      dsimp only at h
      rw [respond] at h
      split at h
      · rename_i cause _
        cases h
        cases cause <;> rfl
      · cases h

end RelayHub.HubExecutor
