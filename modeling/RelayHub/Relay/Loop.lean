/-
The loop of a relay.

A loop fetches the next block, processes it, and starts again, until it is told
to stop. It looks for that in two places only: before it fetches, where a value
of true stops it, and while it fetches, where any news stops it. A block that
has been fetched is processed to its end.
-/
import RelayHub.Relay.Process

set_option autoImplicit false

namespace RelayHub

/-! ## Signals -/

/-- The channel on which a loop is told to stop: the value it holds, whether a
value has come since the loop last looked, and whether no more can come. -/
structure Signal where
  value : Bool
  news : Bool
  closed : Bool
deriving DecidableEq, Repr

namespace Signal

/-- A channel that has held this value from the start. -/
def holding (value : Bool) : Signal := ⟨value, false, false⟩

/-- The channel after a value has been sent. -/
def send (s : Signal) (value : Bool) : Signal :=
  if s.closed then s else { s with value, news := true }

/-- The channel after its sender has gone. -/
def close (s : Signal) : Signal := { s with closed := true }

/-- Whether a loop that waits for news is woken. -/
def wakes (s : Signal) : Bool := s.news || s.closed

end Signal

/-! ## The loop -/

/-- What a loop is doing: about to look at the signal, fetching a block,
processing one, or nothing any more. The cursor is the one to fetch with
next. -/
inductive LoopState where
  | looking (cursor : Cursor)
  | fetching (work : RelayScript RawBlock)
  | processing (cursor : Cursor) (work : RelayScript Unit)
  | stopped

namespace LoopState

/-- A new loop. -/
def start : LoopState := looking .new

/-- Whether a loop has ended. -/
def isStopped : LoopState → Bool
  | stopped => true
  | _ => false

/-- What can happen next to a loop: it goes on with its work, or it notices
news while it fetches. -/
inductive Turn where
  | work
  | notice
deriving DecidableEq, Repr

/-- One turn of a loop: at most one operation. -/
def step {σ : Type} (relay : Relay) (perform : (op : RelayOp) → StateM σ op.Answer)
    (signal : Signal) : Turn → LoopState → σ → LoopState × σ
  | .work, looking cursor, s =>
    (if signal.value then stopped else fetching cursor.next, s)
  -- The cursor moves on with the block, before it is processed.
  | .work, fetching (.done block), s =>
    (processing (.after block.number) (relay.processBlock block), s)
  | .work, fetching work, s =>
    let (work, s) := work.step perform s
    (fetching work, s)
  | .work, processing cursor (.done ()), s => (looking cursor, s)
  | .work, processing cursor work, s =>
    let (work, s) := work.step perform s
    (processing cursor work, s)
  -- News stops a fetch, but a block that has been taken is processed to its end.
  | .notice, fetching work, s => (if signal.wakes then stopped else fetching work, s)
  | _, state, s => (state, s)

/-- Runs a loop until its waits are used up or it stops; `rounds` bounds how
many blocks it takes. Nothing comes on the channel meanwhile, so what is there
stops a fetch at once. -/
def run {σ : Type} (relay : Relay) (perform : (op : RelayOp) → StateM σ op.Answer)
    (signal : Signal) (patience : Nat) :
    (rounds : Nat) → LoopState → σ → LoopState × σ
  | 0, state, s => (state, s)
  | rounds + 1, looking cursor, s =>
    if signal.value then (stopped, s)
    else run relay perform signal patience rounds (fetching cursor.next) s
  | rounds + 1, fetching work, s =>
    if signal.wakes then (stopped, s)
    else
      match work.run perform patience s with
      | ((.done block, patience), s) =>
        run relay perform signal patience rounds
          (processing (.after block.number) (relay.processBlock block)) s
      | ((work, _), s) => (fetching work, s)
  | rounds + 1, processing cursor work, s =>
    match work.run perform patience s with
    | ((.done (), patience), s) => run relay perform signal patience rounds (looking cursor) s
    | ((work, _), s) => (processing cursor work, s)
  | _, stopped, s => (stopped, s)

end LoopState

end RelayHub
