/-
Retries as the layers that they are made of.

The lowest layer is a loop from elsewhere, of which only its documentation is known: it
starts the delays anew, calls a task, and as long as the task fails with an error that
is called transient and there is a delay left, it tells of the error, waits, and calls
again. On top of it stand a layer that sorts the errors and numbers the retries, the two
ways to run an operation under a policy, and for the second of these a loop around the
loop. A run may go on for ever, so what a layer does is told as a relation: where it
starts and how it may return.
-/
import RelayHub.Proofs.Retry.Backoff

set_option autoImplicit false

namespace RelayHub

variable {σ ε α : Type}

/-! ## The lowest layer -/

/-- An error as the loop takes it: one that passes, or one that does not. -/
inductive Graded (ε : Type) where
  | transient (e : ε)
  | permanent (e : ε)

/-- How a run returned: what it answered, the state it left, and the time it slept. -/
structure Ending (σ ε α : Type) where
  answer : Except ε α
  state : σ
  slept : Nat

/-- The same ending, of a run that has slept before. -/
def Ending.after (wait : Nat) (x : Ending σ ε α) : Ending σ ε α :=
  { x with slept := wait + x.slept }

/-- Starts counting delays again. -/
def Delays.reset : Delays → Delays
  | forever interval => forever interval
  | counted d => counted d.reset

/-- What a loop is documented to do, once the delays have been started anew. `tell` is
what it does with an error and the wait that follows it. -/
inductive Rounds (task : Action σ (Graded ε) α) (tell : ε → Nat → σ → σ) :
    Delays → σ → Ending σ ε α → Prop where
  | succeeds {delays : Delays} {s s' : σ} {v : α} (h : task.perform s = (.ok v, s')) :
      Rounds task tell delays s ⟨.ok v, s', 0⟩
  | fails {delays : Delays} {s s' : σ} {e : ε} (h : task.perform s = (.error (.permanent e), s')) :
      Rounds task tell delays s ⟨.error e, s', 0⟩
  | givesUp {delays later : Delays} {s s' : σ} {e : ε}
      (h : task.perform s = (.error (.transient e), s')) (none : delays.next = (none, later)) :
      Rounds task tell delays s ⟨.error e, s', 0⟩
  | waits {delays later : Delays} {s s' : σ} {e : ε} {wait : Nat} {x : Ending σ ε α}
      (h : task.perform s = (.error (.transient e), s')) (some : delays.next = (some wait, later))
      (rest : Rounds task tell later (tell e wait s') x) :
      Rounds task tell delays s (x.after wait)

/-- A loop from elsewhere: how it may return when it is started with these delays, this
task and this way to tell of errors, in a state. -/
structure TryLoop where
  Returns {σ ε α : Type} (delays : Delays) (task : Action σ (Graded ε) α)
    (tell : ε → Nat → σ → σ) (s : σ) (x : Ending σ ε α) : Prop

namespace TryLoop

/-- The loop does what it is documented to do: it starts the delays anew, once, and
returns as the rules say, and whenever they say so. -/
structure Documented (L : TryLoop) : Prop where
  returns_iff {σ ε α : Type} (delays : Delays) (task : Action σ (Graded ε) α)
    (tell : ε → Nat → σ → σ) (s : σ) (x : Ending σ ε α) :
    L.Returns delays task tell s x ↔ Rounds task tell delays.reset s x

/-! ### A loop that can be run -/

/-- Tries no more than `most` times; nothing if the loop is still at work then. -/
def attempts (task : Action σ (Graded ε) α) (tell : ε → Nat → σ → σ) :
    (most : Nat) → Delays → σ → Option (Ending σ ε α)
  | 0, _, _ => none
  | most + 1, delays, s =>
    match task.perform s with
    | (.ok v, s) => some ⟨.ok v, s, 0⟩
    | (.error (.permanent e), s) => some ⟨.error e, s, 0⟩
    | (.error (.transient e), s) =>
      match delays.next with
      | (none, _) => some ⟨.error e, s, 0⟩
      | (some wait, later) => (attempts task tell most later (tell e wait s)).map (·.after wait)

/-- The loop that tries as often as it takes. -/
def plain : TryLoop where
  Returns delays task tell s x := ∃ most, attempts task tell most delays.reset s = some x

variable {task : Action σ (Graded ε) α} {tell : ε → Nat → σ → σ} {s : σ} {x : Ending σ ε α}

theorem rounds_of_attempts {most : Nat} {delays : Delays}
    (h : attempts task tell most delays s = some x) : Rounds task tell delays s x := by
  induction most generalizing delays s x with
  | zero => cases h
  | succ most ih =>
    unfold attempts at h
    split at h
    · cases h
      exact .succeeds ‹_›
    · cases h
      exact .fails ‹_›
    · split at h
      · cases h
        exact .givesUp ‹_› ‹_›
      · obtain ⟨y, hy, rfl⟩ := Option.map_eq_some_iff.1 h
        exact .waits ‹_› ‹_› (ih hy)

theorem attempts_of_rounds {delays : Delays} (h : Rounds task tell delays s x) :
    ∃ most, attempts task tell most delays s = some x := by
  induction h with
  | succeeds h => exact ⟨1, by rw [attempts, h]⟩
  | fails h => exact ⟨1, by rw [attempts, h]⟩
  | givesUp h hnone => exact ⟨1, by simp only [attempts, h, hnone]⟩
  | waits h hsome rest ih =>
    obtain ⟨most, hmost⟩ := ih
    exact ⟨most + 1, by simp only [attempts, h, hsome, hmost, Option.map_some]⟩

theorem plain_documented : plain.Documented where
  returns_iff _ _ _ _ _ := ⟨fun ⟨_, h⟩ => rounds_of_attempts h, attempts_of_rounds⟩

end TryLoop

/-! ## The layer that sorts and numbers -/

/-- A state with a count of retries beside it. -/
structure Counting (σ : Type) where
  state : σ
  retries : UInt32

/-- The state in it. -/
def Counting.part : Part (Counting σ) σ where
  get := state
  set s c := { c with state := s }

/-- Sorts an error. -/
def Graded.of (retryable : ε → Bool) (e : ε) : Graded ε :=
  if retryable e then transient e else permanent e

/-- The operation as a task of the loop, which sorts its errors. -/
def gradedTask (op : Action σ ε α) (retryable : ε → Bool) : Action (Counting σ) (Graded ε) α :=
  (op.mapError (Graded.of retryable)).within Counting.part

/-- Tells the observer of an error, with the number of the retry. -/
def numbered (observe : UInt32 → ε → σ → σ) (e : ε) (_wait : Nat) (c : Counting σ) : Counting σ :=
  let retries := c.retries + 1
  ⟨observe retries e c.state, retries⟩

/-- How an operation, run with these delays and the errors sorted like this, may return. -/
def TryLoop.Classified (L : TryLoop) (delays : Delays) (op : Action σ ε α) (retryable : ε → Bool)
    (observe : UInt32 → ε → σ → σ) (s : σ) (x : Ending σ ε α) : Prop :=
  ∃ retries, L.Returns delays (gradedTask op retryable) (numbered observe) ⟨s, 0⟩
    ⟨x.answer, ⟨x.state, retries⟩, x.slept⟩

/-! ## The layer of policies -/

/-- One more, as far as there are numbers. -/
def saturated (n : UInt32) : UInt32 :=
  UInt32.ofNat (min (n.toNat + 1) (UInt32.size - 1))

/-- Tells the observer of an error, with a number of its own and not the one it is told. -/
def renumbered (observe : UInt32 → ε → σ → σ) (_retries : UInt32) (e : ε) (c : Counting σ) :
    Counting σ :=
  let retries := saturated c.retries
  ⟨observe retries e c.state, retries⟩

namespace FixedBackoff

variable (p : FixedBackoff) (L : TryLoop) (op : Action σ ε α)

/-- How a run of an operation under a policy may return. -/
def Runs (retryable : ε → Bool) (observe : UInt32 → ε → σ → σ) (s : σ) (x : Ending σ ε α) : Prop :=
  L.Classified p.delays op retryable observe s x

/-- Runs the operation without a limit, with every error taken to be transient, and should
that return an error, once more. -/
inductive Insists (observe : UInt32 → ε → σ → σ) : Counting σ → Ending (Counting σ) ε α → Prop where
  | returns {c : Counting σ} {x : Ending (Counting σ) ε α} {v : α}
      (h : L.Classified (.forever p.delay) (op.within Counting.part) (fun _ => true)
        (renumbered observe) c x) (ok : x.answer = .ok v) : Insists observe c x
  | again {c : Counting σ} {x y : Ending (Counting σ) ε α} {e : ε}
      (h : L.Classified (.forever p.delay) (op.within Counting.part) (fun _ => true)
        (renumbered observe) c x) (error : x.answer = .error e)
      (rest : Insists observe x.state y) : Insists observe c (y.after x.slept)

/-- How a run until success may return. -/
def RunsUntilOk (observe : UInt32 → ε → σ → σ) (s : σ) (x : Ending σ ε α) : Prop :=
  ∃ retries, p.Insists L op observe ⟨s, 0⟩ ⟨x.answer, ⟨x.state, retries⟩, x.slept⟩

end FixedBackoff

end RelayHub
