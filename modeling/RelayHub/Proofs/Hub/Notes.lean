/-
Notes of what passes through a ledger or a connection.

What the state of a ledger or of another hub shows of a call is up to that
ledger or hub. So the notes are kept beside the state: a ledger that takes notes
writes down each call with its outcome, a connector that takes notes writes down
each request that is handed to a connection. They are the same ledger and
connector otherwise. `noted_execute` says which calls an executor makes, and
`noted_invoke` which requests a client sends, whatever stands behind them.
-/
import RelayHub.Proofs.Hub.Client
import RelayHub.Proofs.Hub.Executor

set_option autoImplicit false

namespace RelayHub

open RelayHub.Action

variable {σ ν ε α β : Type}

/-! ## Notes beside a state -/

namespace Action

/-- The same action beside notes, which it leaves alone. -/
def unnoted (a : Action σ ε α) : Action (σ × List ν) ε α :=
  a.within ⟨Prod.fst, fun s noted => (s, noted.2)⟩

/-- The same action with a note of how it went. -/
def noted (note : Except ε α → ν) (a : Action σ ε α) : Action (σ × List ν) ε α :=
  of fun (s, notes) =>
    let (r, s) := a.perform s
    (r, s, notes ++ [note r])

@[simp] theorem perform_unnoted (a : Action σ ε α) (s : σ) (notes : List ν) :
    a.unnoted.perform (s, notes) = ((a.perform s).1, (a.perform s).2, notes) := rfl

@[simp] theorem perform_noted (note : Except ε α → ν) (a : Action σ ε α) (s : σ) (notes : List ν) :
    (a.noted note).perform (s, notes)
      = ((a.perform s).1, (a.perform s).2, notes ++ [note (a.perform s).1]) := rfl

/-- An action beside notes that does what another action does, and takes no
notes but of a certain kind. -/
def Shadows (kind : ν → Prop) (b : Action (σ × List ν) ε α) (a : Action σ ε α) : Prop :=
  ∀ s notes, ∃ new, b.perform (s, notes) = ((a.perform s).1, (a.perform s).2, notes ++ new) ∧
    ∀ n ∈ new, kind n

/-- Trying again takes the notes of each try. -/
theorem Shadows.run {kind : ν → Prop} {b : Action (σ × List ν) ε α} {a : Action σ ε α}
    (h : Shadows kind b a) (retryable : ε → Bool) (delays : Delays) (patience retries : Nat) (s : σ)
    (notes : List ν) :
    ∃ new, delays.run retryable b patience retries (s, notes)
        = ((delays.run retryable a patience retries s).1,
            (delays.run retryable a patience retries s).2, notes ++ new) ∧
      ∀ n ∈ new, kind n := by
  -- On the tries that are left. The first try decides in both runs alike whether there is
  -- another, and its notes come first.
  induction patience generalizing delays retries s notes with
  | zero =>
    obtain ⟨new, hb, hnew⟩ := h s notes
    refine ⟨new, ?_, hnew⟩
    unfold Delays.run
    rw [hb]
    rcases a.perform s with ⟨e | v, s'⟩
    · dsimp only
      split
      · rfl
      · split <;> rfl
    · rfl
  | succ patience ih =>
    obtain ⟨new, hb, hnew⟩ := h s notes
    unfold Delays.run
    rw [hb]
    rcases a.perform s with ⟨e | v, s'⟩
    · dsimp only
      cases hretry : retryable e with
      | false => exact ⟨new, rfl, hnew⟩
      | true =>
        rcases delays.next with ⟨_ | wait, later⟩
        · exact ⟨new, rfl, hnew⟩
        · obtain ⟨more, hrest, hmore⟩ := ih later (retries + 1) s' (notes ++ new)
          refine ⟨new ++ more, ?_, List.forall_mem_append.2 ⟨hnew, hmore⟩⟩
          rcases hlater : later.run retryable a patience (retries + 1) s' with ⟨r, s''⟩
          simp [hrest, hlater]
    · exact ⟨new, rfl, hnew⟩

end Action

/-! ## Calls of a ledger -/

/-- A call of a contract on a chain, and what came of it. -/
structure LedgerCall where
  chain : ChainId
  call : Invocation
  outcome : Except LedgerError ContractResponse

/-- The same ledger, which takes a note of each call. -/
def Ledger.noted (l : Ledger σ) : Ledger (σ × List LedgerCall) where
  query chain number := (l.query chain number).unnoted
  invoke chain call := (l.invoke chain call).noted (⟨chain, call, ·⟩)

namespace HubExecutor

/-- The same executor, whose ledgers take notes. -/
def noted (x : HubExecutor σ) : HubExecutor (σ × List LedgerCall) where
  registry := x.registry
  signatures := x.signatures
  ledger chain := (x.ledger chain).noted

/-- The calls that a request leads to, with what comes of them. -/
def callsMade (x : HubExecutor σ) (q : HubRequest) (s : σ) : List LedgerCall :=
  (x.callFor q).toList.map fun (chain, call) =>
    ⟨chain, call, (((x.ledger chain).invoke chain call).perform s).1⟩

/-- A request does what it does without notes, and the notes show its call. -/
theorem noted_execute (x : HubExecutor σ) (q : HubRequest) (s : σ) (calls : List LedgerCall) :
    (x.noted.execute q).perform (s, calls)
      = (((x.execute q).perform s).1, ((x.execute q).perform s).2, calls ++ x.callsMade q s) := by
  have haccept : x.noted.accept q = x.accept q := rfl
  have hhosted : x.noted.registry.hosted = x.registry.hosted := rfl
  rw [execute_perform, execute_perform, callsMade, callFor, haccept, hhosted]
  cases x.accept q with
  | error e => simp
  | ok p =>
    dsimp only
    cases x.registry.hosted (target q p) with
    | error e => simp
    | ok hosted => rfl

end HubExecutor

/-! ## Requests on a connection -/

/-- The same hub at the end of a connection that takes notes. -/
def HubApi.noted (api : HubApi σ) : HubApi (σ × List HubRequest) := fun q =>
  (api q).noted fun _ => q

/-- The same connector, which takes a note of each request that is handed to a
connection. -/
def Connector.noted (k : Connector σ) : Connector (σ × List HubRequest) where
  connect target := (k.connect target).unnoted >>= fun api => pure api.noted

namespace HubClient

/-- The same client, whose connector takes notes. -/
def noted (c : HubClient σ) : HubClient (σ × List HubRequest) where
  signatures := c.signatures
  connector := c.connector.noted
  now := fun (s, sent) => let (now, s) := c.now s; (now, s, sent)

/-- A call hands its request to a connection, or there is no connection. -/
theorem noted_call (c : HubClient σ) (q : HubRequest) :
    Shadows (· = q) (c.noted.call q) (c.call q) := by
  intro s sent
  have hconnect : (c.noted.connector.connect q.destination).perform (s, sent)
      = (((c.connector.connect q.destination).perform s).1.map HubApi.noted,
          ((c.connector.connect q.destination).perform s).2, sent) := by
    change ((c.connector.connect q.destination).unnoted >>= fun api =>
      pure api.noted).perform (s, sent) = _
    rw [perform_bind, perform_unnoted]
    rcases (c.connector.connect q.destination).perform s with ⟨_ | _, _⟩ <;> rfl
  rw [call, call, perform_bind, perform_bind, hconnect]
  rcases (c.connector.connect q.destination).perform s with ⟨e | api, s'⟩
  · exact ⟨[], by simp [Except.map], by simp⟩
  · exact ⟨[q], rfl, by simp⟩

/-- Every call that is made for a request hands over that request. -/
theorem noted_send (c : HubClient σ) (q : HubRequest) :
    Shadows (· = q) (c.noted.send q) (c.send q) := by
  intro s sent
  obtain ⟨new, hrun, hnew⟩ :=
    (noted_call c q).run HubError.isDeadlineExceeded policy.delays redials 0 s sent
  refine ⟨new, ?_, hnew⟩
  rw [send, send, perform_of, perform_of, FixedBackoff.run, FixedBackoff.run, hrun]
  rcases policy.delays.run HubError.isDeadlineExceeded (c.call q) redials 0 s with ⟨r, s'⟩
  rfl

theorem noted_stamped (c : HubClient σ) (q : HubRequest) (s : σ) (sent : List HubRequest) :
    c.noted.stamped q (s, sent) = ((c.stamped q s).1, (c.stamped q s).2, sent) := by
  unfold stamped
  split <;> rfl

/-- What is sent for a request is that request, signed and stamped. -/
theorem noted_invoke (c : HubClient σ) (q : HubRequest) :
    Shadows (fun sent => ∃ signed s, c.signed q = .ok signed ∧ sent = (c.stamped signed s).1)
      (c.noted.invoke q) (c.invoke q) := by
  intro s sent
  have hsigned : c.noted.signed q = c.signed q := rfl
  have hobjection : c.noted.objection? = c.objection? := rfl
  rw [invoke_perform, invoke_perform, hsigned, hobjection]
  cases hq : c.signed q with
  | error e => exact ⟨[], by simp, by simp⟩
  | ok signed =>
    dsimp only
    rw [noted_stamped]
    -- Both clients have the same request to send, from the same state.
    rcases hstamped : c.stamped signed s with ⟨stamped, s₁⟩
    obtain ⟨new, hsend, hnew⟩ := noted_send c stamped s₁ sent
    dsimp only
    rw [hsend]
    refine ⟨new, ?_, fun n hn => ⟨signed, s, rfl, ?_⟩⟩
    · rcases (c.send stamped).perform s₁ with ⟨e | r, s₂⟩
      · rfl
      · dsimp only
        cases c.objection? stamped r <;> rfl
    · rw [hnew n hn, hstamped]

end HubClient

end RelayHub
