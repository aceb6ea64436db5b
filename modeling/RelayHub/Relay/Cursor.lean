/-
Reading a chain's blocks in order.

A cursor remembers the number of the last block it has handed out; a new one
starts after the greatest number in the store. It asks for the next block until
it gets it, whatever goes wrong before. The cursor moves only when a block is
handed out, so a fetch that is given up loses nothing.
-/
import RelayHub.Relay.Operation

set_option autoImplicit false

namespace RelayHub

/-- The value of a success. -/
def succeeded {ε α : Type} : Except ε α → Option α
  | .ok v => some v
  | .error _ => none

/-- A cursor: the number of the last block handed out, once it is known. -/
structure Cursor where
  position : Option UInt64
deriving DecidableEq, Repr

namespace Cursor

/-- A cursor that starts where the store ends. -/
def new : Cursor := ⟨none⟩

/-- A cursor that has just handed out a given block. -/
def after (number : UInt64) : Cursor := ⟨some number⟩

/-- Asks the store where to start, unless that is known. -/
def resolve (c : Cursor) : RelayScript UInt64 :=
  match c.position with
  | some number => .done number
  | none => .insist .latest succeeded

/-- The block that was asked for, or the failure to give it. -/
def checked (number : UInt64) (r : Except LedgerError RawBlock) : Except LedgerError RawBlock :=
  match r with
  | .ok b =>
    if b.number = number then .ok b
    else
      .error (.badData ("requested block " ++ toString number.toNat ++ ", ledger returned " ++
        toString b.number.toNat))
  | .error e => .error e

/-- Asks the ledger for a block until it gives that very block. -/
def query (number : UInt64) : RelayScript RawBlock :=
  .insist (.query number) fun r => succeeded (checked number r)

/-- The next block. -/
def next (c : Cursor) : RelayScript RawBlock := do
  let position ← c.resolve
  query (position + 1)

/-- A fetch that may be given up: the block, if it came, the cursor after it,
and the waits left. -/
structure Fetched where
  block : Option RawBlock
  cursor : Cursor
  patience : Nat

/-- Fetches the next block, with no more waits than given. -/
def fetch {σ : Type} (p : RelayLinks σ) (c : Cursor) (patience : Nat) : StateM σ Fetched := fun s =>
  match c.resolve.run p.perform patience s with
  | ((.done position, patience), s) =>
    let number := position + 1
    match (query number).run p.perform patience s with
    | ((.done block, patience), s) => (⟨some block, after number, patience⟩, s)
    -- The position is known by now, and the next fetch does not ask for it again.
    | ((_, patience), s) => (⟨none, after position, patience⟩, s)
  | ((_, patience), s) => (⟨none, c, patience⟩, s)

end Cursor

end RelayHub
