/-
Scripts of operations, each of which is tried until its answer will do.

A script says what to do and in which order, and leaves open what the
operations answer. It is carried out against a state that performs them. A
refused answer costs a wait; since a script is data, what is left of it when
the waits run out, or when it is stopped between two operations, is a script
again.
-/

set_option autoImplicit false

namespace RelayHub

/-- What to do to arrive at an `α`. Operations are of type `Op`, and `Answer`
says what each of them answers. -/
inductive Script (Op : Type) (Answer : Op → Type) (α : Type) : Type 1 where
  | done (value : α)
  | attempt {β : Type} (op : Op) (accept : Answer op → Option β)
      (next : β → Script Op Answer α)

namespace Script

variable {Op : Type} {Answer : Op → Type} {α β : Type} {σ : Type}

/-! ## Putting scripts together -/

/-- One script and then another. -/
def andThen : Script Op Answer α → (α → Script Op Answer β) → Script Op Answer β
  | done v, f => f v
  | attempt op accept next, f => attempt op accept fun v => (next v).andThen f

instance : Monad (Script Op Answer) where
  pure := done
  bind := andThen

/-- An operation, until its answer is accepted. -/
def insist (op : Op) (accept : Answer op → Option α) : Script Op Answer α :=
  attempt op accept done

/-- The same script for each item of a list, in order. -/
def each (items : List β) (f : β → Script Op Answer Unit) : Script Op Answer Unit :=
  match items with
  | [] => done ()
  | item :: items => (f item).andThen fun _ => each items f

/-- The value of a script that is done. -/
def value? : Script Op Answer α → Option α
  | done v => some v
  | attempt _ _ _ => none

/-! ## Carrying scripts out -/

/-- Performs one operation. -/
def step (perform : (op : Op) → StateM σ (Answer op)) :
    Script Op Answer α → σ → Script Op Answer α × σ
  | done v, s => (done v, s)
  | attempt op accept next, s =>
    match perform op s with
    | (answer, s) =>
      match accept answer with
      | some v => (next v, s)
      | none => (attempt op accept next, s)

/-- Performs a number of operations. -/
def steps (perform : (op : Op) → StateM σ (Answer op)) :
    Nat → Script Op Answer α → σ → Script Op Answer α × σ
  | 0, script, s => (script, s)
  | n + 1, script, s =>
    let (script, s) := step perform script s
    steps perform n script s

/-- Performs an operation until its answer is accepted, waiting no more than
`patience` times. Answers what was accepted and how many waits are left. -/
def persist {γ : Type} (perform : StateM σ β) (accept : β → Option γ) :
    (patience : Nat) → StateM σ (Option γ × Nat)
  | patience, s =>
    match perform s with
    | (answer, s) =>
      match accept answer with
      | some v => ((some v, patience), s)
      | none =>
        match patience with
        | 0 => ((none, 0), s)
        | patience + 1 => persist perform accept patience s

/-- Carries out a script, waiting no more than `patience` times. Answers what
is left of the script and how many waits are left. -/
def run (perform : (op : Op) → StateM σ (Answer op)) :
    (script : Script Op Answer α) → (patience : Nat) → σ → (Script Op Answer α × Nat) × σ
  | done v, patience, s => ((done v, patience), s)
  | attempt op accept next, patience, s =>
    match persist (perform op) accept patience s with
    | ((some v, patience), s) => run perform (next v) patience s
    -- No waits are left, and the same operation is still to be done.
    | ((none, _), s) => ((attempt op accept next, 0), s)

end Script

end RelayHub
