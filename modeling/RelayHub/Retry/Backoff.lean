/-
Trying again after a fixed delay.

A policy says how long to wait before the next try, and how often to try again
at all. A run of an operation under a policy ends with a success, with an error
that is not worth a retry, or when the policy has no more delays to give; it
may also be cut off before that. Times are milliseconds, and only delays take
time.
-/
import RelayHub.Action

set_option autoImplicit false

namespace RelayHub

/-! ## Delays -/

/-- A delay that is given a limited number of times. -/
structure CountedDelay where
  interval : Nat
  limit : Nat
  given : Nat
deriving DecidableEq, Repr

namespace CountedDelay

/-- A delay that can be given `limit` times. -/
def new (interval limit : Nat) : CountedDelay := ⟨interval, limit, 0⟩

/-- The next delay, if there is one left, and the counter after it. -/
def next (d : CountedDelay) : Option Nat × CountedDelay :=
  if d.given < d.limit then (some d.interval, { d with given := d.given + 1 }) else (none, d)

/-- Starts counting again. -/
def reset (d : CountedDelay) : CountedDelay :=
  { d with given := 0 }

end CountedDelay

/-- Where delays come from. -/
inductive Delays where
  | forever (interval : Nat)
  | counted (d : CountedDelay)
deriving DecidableEq, Repr

namespace Delays

/-- The next delay, if there is one, and what the later ones come from. -/
def next : Delays → Option Nat × Delays
  | forever interval => (some interval, forever interval)
  | counted d => (d.next.1, counted d.next.2)

end Delays

/-! ## Runs -/

/-- How a run of an operation went: the outcome of its last call, whether the
run ended with it, the errors that were followed by a retry, with the number of
that retry, and the time spent waiting. -/
structure Retried (ε α : Type) where
  last : Except ε α
  ended : Bool
  observed : List (Nat × ε)
  elapsed : Nat

namespace Retried

variable {ε α : Type}

/-- How many calls were made ready. Each call is made ready before the wait
that precedes it, so a run that was cut off has one more than it has made. -/
def calls (r : Retried ε α) : Nat :=
  r.observed.length + 1

/-- The same run, after one more error and the wait that followed it. -/
def after (retry : Nat) (e : ε) (wait : Nat) (r : Retried ε α) : Retried ε α :=
  { r with observed := (retry, e) :: r.observed, elapsed := wait + r.elapsed }

end Retried

/-- Calls an operation, and again as long as it fails with an error worth a
retry and there is a delay left. The run is cut off after `patience` waits.
`retries` counts those already made. -/
def Delays.run {σ ε α : Type} (delays : Delays) (retryable : ε → Bool) (op : Action σ ε α)
    (patience retries : Nat) : StateM σ (Retried ε α) := fun s =>
  match op.perform s with
  | (.ok v, s) => (⟨.ok v, true, [], 0⟩, s)
  | (.error e, s) =>
    if !retryable e then (⟨.error e, true, [], 0⟩, s)
    else
      match delays.next with
      -- The last error is the outcome, and nothing is observed for it: no retry follows.
      | (none, _) => (⟨.error e, true, [], 0⟩, s)
      | (some wait, later) =>
        match patience with
        | 0 => (⟨.error e, false, [(retries + 1, e)], 0⟩, s)
        | patience + 1 =>
          let (r, s) := later.run retryable op patience (retries + 1) s
          (r.after (retries + 1) e wait, s)

/-! ## Policies -/

/-- A policy: the delay between tries, and how many retries there are, if they
are limited. -/
structure FixedBackoff where
  delay : Nat
  maxRetries : Option Nat
deriving DecidableEq, Repr

namespace FixedBackoff

variable {σ ε α : Type}

/-- Retries without end. -/
def forever (delay : Nat) : FixedBackoff := ⟨delay, none⟩

/-- Retries a limited number of times. -/
def limited (delay maxRetries : Nat) : FixedBackoff := ⟨delay, some maxRetries⟩

/-- The delay where none is given. -/
def defaultDelay : Nat := 2000

/-- The policy where none is given. -/
def standard : FixedBackoff := forever defaultDelay

/-- The delays of a policy. -/
def delays (p : FixedBackoff) : Delays :=
  match p.maxRetries with
  | some limit => .counted (.new p.delay limit)
  | none => .forever p.delay

/-- Runs an operation under a policy. -/
def run (p : FixedBackoff) (retryable : ε → Bool) (op : Action σ ε α) (patience : Nat) :
    StateM σ (Retried ε α) :=
  p.delays.run retryable op patience 0

/-- Runs an operation until it succeeds, whatever limit the policy has. -/
def runUntilOk (p : FixedBackoff) (op : Action σ ε α) (patience : Nat) : StateM σ (Retried ε α) :=
  (Delays.forever p.delay).run (fun _ => true) op patience 0

/-- How many waits fit into a budget of time, the last of which may end just
with it. Without a delay any number fits; then `most` is answered. -/
def patience (p : FixedBackoff) (budget most : Nat) : Nat :=
  if p.delay = 0 then most else budget / p.delay

end FixedBackoff

end RelayHub
