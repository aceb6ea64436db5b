/-
Actions: functions that read and change a state, and may fail.

An action answers a value or an error, and the state after it, whether it
fails or not. Stores, ledgers and hubs are all records of actions on a state
of any type, so that one state can hold several of them.
-/

set_option autoImplicit false

namespace RelayHub

/-- An action on a state of type `σ` that answers an `α` or fails with an `ε`. -/
abbrev Action (σ ε α : Type) : Type := ExceptT ε (StateM σ) α

namespace Action

variable {σ τ ε ε' α : Type}

/-- The action that does what a function of the state says. -/
def of (f : σ → Except ε α × σ) : Action σ ε α := f

/-- The answer of an action, with the state after it. -/
def perform (a : Action σ ε α) (s : σ) : Except ε α × σ := a s

/-- The action that only looks at the state. -/
def look (f : σ → Except ε α) : Action σ ε α :=
  of fun s => (f s, s)

/-- An action that gives its answer or error as a value, and never fails. -/
def outcome (a : Action σ ε α) : StateM σ (Except ε α) := a

/-- The same action with other errors. -/
def mapError (f : ε → ε') (a : Action σ ε α) : Action σ ε' α :=
  of fun s =>
    match a.perform s with
    | (.ok v, s) => (.ok v, s)
    | (.error e, s) => (.error (f e), s)

/-- Succeeds or fails with a value already worked out. -/
def ofExcept (r : Except ε α) : Action σ ε α :=
  of fun s => (r, s)

end Action

/-- A part of a state: how to see it, and how to put another in its place. -/
structure Part (σ τ : Type) where
  get : σ → τ
  set : τ → σ → σ

/-- An action on a part of a state, as an action on the whole. -/
def Action.within {σ τ ε α : Type} (p : Part σ τ) (a : Action τ ε α) : Action σ ε α :=
  Action.of fun s =>
    let (r, t) := a.perform (p.get s)
    (r, p.set t s)

end RelayHub
