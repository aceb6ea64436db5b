/-
What a run of an operation under a policy does to the state.
-/
import RelayHub.Proofs.Action
import RelayHub.Retry.Backoff

set_option autoImplicit false

namespace RelayHub

open RelayHub.Action

variable {σ ε α : Type}

/-- An operation that ends with a success, or with an error not worth a retry,
is called once. -/
theorem Delays.run_once {retryable : ε → Bool} {op : Action σ ε α} {s : σ}
    (h : ∀ e, (op.perform s).1 = .error e → retryable e = false) (delays : Delays)
    (patience retries : Nat) :
    delays.run retryable op patience retries s
      = (⟨(op.perform s).1, true, [], 0⟩, (op.perform s).2) := by
  unfold Delays.run
  rcases hs : op.perform s with ⟨e | v, s'⟩
  · rw [hs] at h
    simp [h e rfl]
  · rfl

/-- What an operation leaves alone, its run leaves alone. -/
theorem Delays.run_keeps {γ : Type} {view : σ → γ} {retryable : ε → Bool} {op : Action σ ε α}
    (h : Keeps view op) (delays : Delays) (patience retries : Nat) (s : σ) :
    view (delays.run retryable op patience retries s).2 = view s := by
  -- On how many tries are made at most: each of them keeps the view, be it the last or not.
  induction patience generalizing delays retries s with
  | zero =>
    unfold Delays.run
    rcases hs : op.perform s with ⟨e | v, s'⟩
    · dsimp only
      split
      · exact h hs
      · split <;> exact h hs
    · exact h hs
  | succ patience ih =>
    unfold Delays.run
    rcases hs : op.perform s with ⟨e | v, s'⟩
    · dsimp only
      split
      · exact h hs
      · split
        · exact h hs
        · rename_i later _
          exact (ih later (retries + 1) s').trans (h hs)
    · exact h hs

end RelayHub
