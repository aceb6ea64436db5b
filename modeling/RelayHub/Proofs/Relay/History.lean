/-
The history of a relay's loop: turns, crashes, new loops.

A loop is data between two turns, and a turn is one operation at most, so a
crash between two effects is a new loop put in the place of the old one, over
the same world. A site keeps the journal of the loop at work and those of the
loops before it. `moves_of_step` says what one turn does, once for all;
`Lived` follows a loop through its turns without the world, and every journal
of a site is that of a loop that has lived.
-/
import RelayHub.Proofs.Relay.Course
import RelayHub.Relay.Loop

set_option autoImplicit false

namespace RelayHub

open Script

variable {σ : Type}

/-! ## Turns -/

/-- A turn of a loop: where it comes from, what it tries if it tries anything,
and where it goes. -/
inductive LoopState.Moves (relay : Relay) : LoopState → Option Deed → LoopState → Prop where
  | rests (loop : LoopState) : Moves relay loop none loop
  | looks (cursor : Cursor) : Moves relay (.looking cursor) none (.fetching cursor.next)
  | stopsLooking (cursor : Cursor) : Moves relay (.looking cursor) none .stopped
  | stopsFetching (work : RelayScript RawBlock) : Moves relay (.fetching work) none .stopped
  | fetches {work work' : RelayScript RawBlock} {t : Deed} (h : Tries work t work') :
      Moves relay (.fetching work) (some t) (.fetching work')
  | takes (b : RawBlock) :
      Moves relay (.fetching (.done b)) none (.processing (.after b.number) (relay.processBlock b))
  | works {cursor : Cursor} {work work' : RelayScript Unit} {t : Deed} (h : Tries work t work') :
      Moves relay (.processing cursor work) (some t) (.processing cursor work')
  | finishes (cursor : Cursor) :
      Moves relay (.processing cursor (.done ())) none (.looking cursor)

open LoopState

/-- A turn tries one operation, or none and changes nothing but the loop. -/
theorem moves_of_step {relay : Relay} {perform : (op : RelayOp) → StateM σ op.Answer}
    {signal : Signal} {turn : Turn} {loop loop' : LoopState} {s s' : σ} {past past' : List Deed}
    (h : LoopState.step relay (journaled perform) signal turn loop (s, past)
      = (loop', s', past')) :
    (Moves relay loop none loop' ∧ s' = s ∧ past' = past) ∨
      ∃ op, Moves relay loop (some ⟨op, (perform op s).1⟩) loop' ∧ s' = (perform op s).2 ∧
        past' = past ++ [⟨op, (perform op s).1⟩] := by
  cases turn with
  | notice =>
    -- News while a block is fetched may stop the loop, and never costs an operation.
    refine .inl ?_
    cases loop with
    | fetching work =>
      rw [LoopState.step] at h
      split at h <;> cases h
      · exact ⟨.stopsFetching _, rfl, rfl⟩
      · exact ⟨.rests _, rfl, rfl⟩
    | _ => cases h; exact ⟨.rests _, rfl, rfl⟩
  | work =>
    cases loop with
    | looking cursor =>
      rw [LoopState.step] at h
      split at h <;> cases h
      · exact .inl ⟨.stopsLooking _, rfl, rfl⟩
      · exact .inl ⟨.looks _, rfl, rfl⟩
    | fetching work =>
      cases work with
      | done b => cases h; exact .inl ⟨.takes b, rfl, rfl⟩
      | attempt op accept next =>
        rcases hstep : Script.step (journaled perform) (.attempt op accept next) (s, past) with
          ⟨work', s₁, past₁⟩
        rw [LoopState.step, hstep] at h
        · cases h
          rcases step_journaled hstep with ⟨v, hdone, -⟩ | ⟨op', htries, hs, hpast⟩
          · cases hdone
          · exact .inr ⟨op', .fetches htries, hs, hpast⟩
        · simp
    | processing cursor work =>
      cases work with
      | done => cases h; exact .inl ⟨.finishes cursor, rfl, rfl⟩
      | attempt op accept next =>
        rcases hstep : Script.step (journaled perform) (.attempt op accept next) (s, past) with
          ⟨work', s₁, past₁⟩
        rw [LoopState.step, hstep] at h
        · cases h
          rcases step_journaled hstep with ⟨v, hdone, -⟩ | ⟨op', htries, hs, hpast⟩
          · cases hdone
          · exact .inr ⟨op', .works htries, hs, hpast⟩
        · simp
    | stopped => cases h; exact .inl ⟨.rests _, rfl, rfl⟩

/-! ## Lives -/

/-- A loop that has been at work since it was started, with its journal. -/
inductive Lived (relay : Relay) : List Deed → LoopState → Prop where
  | begun : Lived relay [] .start
  | moved {past : List Deed} {loop loop' : LoopState} {o : Option Deed}
      (h : Lived relay past loop) (next : Moves relay loop o loop') :
      Lived relay (past ++ o.toList) loop'

/-! ## Sites -/

/-- What happens at the site of a relay: its loop takes a turn, it is stopped
dead and a new one started, or the world around it moves on. -/
inductive Happening (σ : Type) where
  | turn (signal : Signal) (turn : Turn)
  | restart
  | outside (change : σ → σ)

/-- The site of a relay: the loop at work and its journal, the world, and the
journals of the loops before, in order. -/
structure Site (σ : Type) where
  loop : LoopState
  world : σ
  life : List Deed
  earlier : List (List Deed)

namespace Site

/-- A site where the first loop is about to be started. -/
def opened (world : σ) : Site σ := ⟨.start, world, [], []⟩

/-- The journals of all loops, in order. -/
def lives (x : Site σ) : List (List Deed) :=
  x.earlier ++ [x.life]

/-- One happening. -/
def happen (relay : Relay) (perform : (op : RelayOp) → StateM σ op.Answer) :
    Happening σ → Site σ → Site σ
  | .turn signal turn, x =>
    let (loop, world, life) :=
      LoopState.step relay (journaled perform) signal turn x.loop (x.world, x.life)
    { x with loop, world, life }
  | .restart, x => { loop := .start, world := x.world, life := [], earlier := x.lives }
  | .outside change, x => { x with world := change x.world }

/-- A history, happening by happening. -/
def play (relay : Relay) (perform : (op : RelayOp) → StateM σ op.Answer)
    (history : List (Happening σ)) (x : Site σ) : Site σ :=
  history.foldl (fun x h => happen relay perform h x) x

variable {relay : Relay} {perform : (op : RelayOp) → StateM σ op.Answer}

theorem play_cons (h : Happening σ) (history : List (Happening σ)) (x : Site σ) :
    play relay perform (h :: history) x = play relay perform history (happen relay perform h x) :=
  rfl

/-- What holds at the start and is kept by every happening holds after a
history. -/
theorem play_invariant {P : Site σ → Prop} {history : List (Happening σ)} {x : Site σ} (hx : P x)
    (hstep : ∀ h ∈ history, ∀ x, P x → P (happen relay perform h x)) :
    P (play relay perform history x) := by
  induction history generalizing x with
  | nil => exact hx
  | cons h history ih =>
    exact ih (hstep h List.mem_cons_self x hx) fun h' hh' => hstep h' (List.mem_cons_of_mem _ hh')

/-- A turn at a site. -/
theorem happen_turn (signal : Signal) (turn : Turn) (x : Site σ) :
    (∃ loop', Moves relay x.loop none loop' ∧
        happen relay perform (.turn signal turn) x = { x with loop := loop' }) ∨
      ∃ op loop', Moves relay x.loop (some ⟨op, (perform op x.world).1⟩) loop' ∧
        happen relay perform (.turn signal turn) x =
          { x with
            loop := loop'
            world := (perform op x.world).2
            life := x.life ++ [⟨op, (perform op x.world).1⟩] } := by
  rw [happen]
  rcases hs : LoopState.step relay (journaled perform) signal turn x.loop (x.world, x.life) with
    ⟨loop', world', life'⟩
  rcases moves_of_step hs with ⟨hmoves, rfl, rfl⟩ | ⟨op, hmoves, rfl, rfl⟩
  · exact .inl ⟨loop', hmoves, rfl⟩
  · exact .inr ⟨op, loop', hmoves, rfl⟩

/-- Every journal of a site is that of a loop that has lived. -/
theorem lived_of_mem_lives {history : List (Happening σ)} {world : σ} {life : List Deed}
    (h : life ∈ (play relay perform history (opened world)).lives) :
    ∃ loop, Lived relay life loop := by
  let P (x : Site σ) : Prop :=
    Lived relay x.life x.loop ∧ ∀ l ∈ x.earlier, ∃ loop, Lived relay l loop
  -- A restart moves the life at work to the earlier ones, so both are told together.
  have hall : P (play relay perform history (opened world)) := by
    refine play_invariant ⟨.begun, by simp [opened]⟩ ?_
    rintro (⟨signal, turn⟩ | _ | change) - x ⟨hlife, hearlier⟩
    · rcases happen_turn signal turn x with ⟨loop', hmoves, hx⟩ | ⟨op, loop', hmoves, hx⟩
      · rw [hx]
        exact ⟨by simpa using hlife.moved hmoves, hearlier⟩
      · rw [hx]
        exact ⟨hlife.moved hmoves, hearlier⟩
    · refine ⟨.begun, fun l hl => ?_⟩
      rcases List.mem_append.1 hl with hl | hl
      · exact hearlier l hl
      · rw [List.mem_singleton.1 hl]
        exact ⟨_, hlife⟩
    · exact ⟨hlife, hearlier⟩
  rcases List.mem_append.1 h with h | h
  · exact hall.2 life h
  · rw [List.mem_singleton.1 h]
    exact ⟨_, hall.1⟩

end Site

end RelayHub
