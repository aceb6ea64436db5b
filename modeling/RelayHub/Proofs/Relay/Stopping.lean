/-
When a loop stops.

A loop that runs listens to its channel, on which values are sent by others while it takes
its turns; the world around it moves as well. It looks at the channel in two ways: before
it fetches at the value, and while it fetches at whether there is news. So a loop that has
stopped was told to, unless a value of false was the news. It stops in no other place: its
journal is made of tries to fetch and of blocks that were processed to their end, and these
are the blocks that it took up, each stored and counted once.
-/
import RelayHub.Proofs.Relay.Tally

set_option autoImplicit false

namespace RelayHub

open Script Deed LoopState

variable {σ : Type}

/-! ## A loop and its channel -/

/-- What can happen while a loop runs: it takes a turn, a value is sent to it, the sender
goes, or the world around it moves on. -/
inductive LoopEvent (σ : Type) where
  | turn (turn : Turn)
  | send (value : Bool)
  | drop
  | outside (change : σ → σ)

/-- A loop that runs: its site, the channel on which it is told to stop, and the blocks that
its cursor has handed out, in order. -/
structure RunningLoop (σ : Type) where
  site : Site σ
  signal : Signal
  taken : List RawBlock

/-- The block that a loop has taken up between two moments. -/
def LoopState.tookUp? : LoopState → LoopState → Option RawBlock
  | fetching (.done b), processing _ _ => some b
  | _, _ => none

namespace RunningLoop

/-- A loop that is about to start, with a channel that holds this value. -/
def begun (world : σ) (value : Bool) : RunningLoop σ :=
  ⟨.opened world, .holding value, []⟩

/-- One event. -/
def happen (relay : Relay) (perform : (op : RelayOp) → StateM σ op.Answer) :
    LoopEvent σ → RunningLoop σ → RunningLoop σ
  | .turn turn, x =>
    let site := x.site.happen relay perform (.turn x.signal turn)
    { x with site, taken := x.taken ++ (x.site.loop.tookUp? site.loop).toList }
  | .send value, x => { x with signal := x.signal.send value }
  | .drop, x => { x with signal := x.signal.close }
  | .outside change, x => { x with site := x.site.happen relay perform (.outside change) }

/-- A run, event by event. -/
def play (relay : Relay) (perform : (op : RelayOp) → StateM σ op.Answer)
    (events : List (LoopEvent σ)) (x : RunningLoop σ) : RunningLoop σ :=
  events.foldl (fun x e => happen relay perform e x) x

variable {relay : Relay} {perform : (op : RelayOp) → StateM σ op.Answer}

/-- What holds at the start and is kept by every event holds after a run. -/
theorem play_invariant {P : RunningLoop σ → Prop} {events : List (LoopEvent σ)}
    {x : RunningLoop σ} (hx : P x)
    (hstep : ∀ e ∈ events, ∀ x, P x → P (happen relay perform e x)) :
    P (play relay perform events x) := by
  induction events generalizing x with
  | nil => exact hx
  | cons e events ih =>
    exact ih (hstep e List.mem_cons_self x hx) fun e' he' => hstep e' (List.mem_cons_of_mem _ he')

end RunningLoop

/-! ## Being told to stop -/

/-- A turn stops a loop only where it looks at the channel, and finds a value of true or news
there. -/
theorem stopped_of_step {relay : Relay} {perform : (op : RelayOp) → StateM σ op.Answer}
    {signal : Signal} {turn : Turn} {loop : LoopState} {s : σ}
    (h : (LoopState.step relay perform signal turn loop s).1 = .stopped) :
    loop = .stopped ∨ signal.value = true ∨ signal.wakes = true := by
  cases turn with
  | work =>
    cases loop with
    | looking cursor =>
      rw [LoopState.step] at h
      split at h
      · exact .inr (.inl ‹_›)
      · cases h
    | fetching work =>
      cases work with
      | done b => cases h
      | attempt op accept next =>
        rw [LoopState.step] at h
        · cases h
        · simp
    | processing cursor work =>
      cases work with
      | done => cases h
      | attempt op accept next =>
        rw [LoopState.step] at h
        · cases h
        · simp
    | stopped => exact .inl rfl
  | notice =>
    cases loop with
    | fetching work =>
      rw [LoopState.step] at h
      split at h
      · exact .inr (.inr ‹_›)
      · cases h
    | _ => cases h <;> exact .inl rfl

namespace RunningLoop

/-- A loop whose channel and whose end are only what they were told to be. -/
structure Obeys (told : Prop) (x : RunningLoop σ) : Prop where
  value : x.signal.value = true → told
  wakes : x.signal.wakes = true → told
  stopped : x.site.loop = .stopped → told

variable {relay : Relay} {perform : (op : RelayOp) → StateM σ op.Answer}
  {events : List (LoopEvent σ)} {told : Prop}

theorem Obeys.happen {x : RunningLoop σ} (h : x.Obeys told) {e : LoopEvent σ}
    (hfalse : e ≠ .send false) (htrue : e = .send true → told) (hdrop : e = .drop → told) :
    (happen relay perform e x).Obeys told := by
  cases e with
  | turn turn =>
    refine ⟨h.value, h.wakes, fun hstopped => ?_⟩
    change (LoopState.step relay (journaled perform) x.signal turn x.site.loop
      (x.site.world, x.site.life)).1 = .stopped at hstopped
    rcases stopped_of_step hstopped with hbefore | hvalue | hwakes
    · exact h.stopped hbefore
    · exact h.value hvalue
    · exact h.wakes hwakes
  | send value =>
    cases value with
    | false => exact absurd rfl hfalse
    | true => exact ⟨fun _ => htrue rfl, fun _ => htrue rfl, h.stopped⟩
  | drop => exact ⟨h.value, fun _ => hdrop rfl, h.stopped⟩
  | outside change => exact ⟨h.value, h.wakes, h.stopped⟩

/-- A loop to which false is never sent stops only when it was told to. -/
theorem told_of_stopped {world : σ} {value : Bool}
    (hstopped : (play relay perform events (begun world value)).site.loop = .stopped)
    (hfalse : .send false ∉ events) :
    value = true ∨ .send true ∈ events ∨ .drop ∈ events := by
  have hbegun : (begun world value).Obeys (value = true ∨ .send true ∈ events ∨ .drop ∈ events) :=
    ⟨.inl, nofun, nofun⟩
  refine (play_invariant hbegun fun e he x hx => ?_).stopped hstopped
  exact hx.happen (fun heq => hfalse (heq ▸ he)) (fun heq => .inr (.inl (heq ▸ he)))
    fun heq => .inr (.inr (heq ▸ he))

end RunningLoop

/-! ## Blocks that were processed to their end -/

namespace Relay

/-- A journal made of tries to fetch and of the processing of these blocks, each to its
end. -/
inductive Finished (relay : Relay) : List RawBlock → List Deed → Prop where
  | none : Finished relay [] []
  | fetches {blocks : List RawBlock} {past : List Deed} {t : Deed} (h : Finished relay blocks past)
      (hop : t.op = .latest ∨ ∃ n, t.op = .query n) : Finished relay blocks (past ++ [t])
  | processes {blocks : List RawBlock} {b : RawBlock} {past part : List Deed}
      (h : Finished relay blocks past) (hpart : Leads (relay.processBlock b) part (.done ())) :
      Finished relay (blocks ++ [b]) (past ++ part)

/-- What a loop has behind it, with the blocks that it took up: all of them are finished, but
for one that it is processing. -/
inductive Along (relay : Relay) (taken : List RawBlock) (life : List Deed) : LoopState → Prop where
  | looking {cursor : Cursor} (h : relay.Finished taken life) :
      Along relay taken life (.looking cursor)
  | fetching {work : RelayScript RawBlock} (h : relay.Finished taken life)
      (hwork : work = Cursor.new.next ∨ (∃ n, work = Cursor.query n) ∨ ∃ b, work = .done b) :
      Along relay taken life (.fetching work)
  | processing {blocks : List RawBlock} {b : RawBlock} {before part : List Deed} {cursor : Cursor}
      {work : RelayScript Unit} (h : relay.Finished blocks before) (htaken : taken = blocks ++ [b])
      (hlife : life = before ++ part) (hpart : Leads (relay.processBlock b) part work) :
      Along relay taken life (.processing cursor work)
  | stopped (h : relay.Finished taken life) : Along relay taken life .stopped

variable {relay : Relay} {taken blocks : List RawBlock} {life : List Deed}

/-- A turn goes on with the block at hand, and takes up another only when that is
finished. -/
theorem Along.moves {loop loop' : LoopState} {o : Option Deed} (h : relay.Along taken life loop)
    (hmoves : loop.Moves relay o loop') :
    relay.Along (taken ++ (loop.tookUp? loop').toList) (life ++ o.toList) loop' := by
  cases hmoves with
  | rests =>
    have hnone : loop.tookUp? loop = none := by
      cases loop with
      | fetching work => cases work <;> rfl
      | _ => rfl
    simpa [hnone] using h
  | looks cursor =>
    cases h with
    | looking h =>
      have hwork : cursor.next = Cursor.new.next ∨ (∃ n, cursor.next = Cursor.query n) ∨
          ∃ b, cursor.next = .done b := by
        obtain ⟨_ | number⟩ := cursor
        · exact .inl rfl
        · exact .inr (.inl ⟨number + 1, rfl⟩)
      simpa [tookUp?] using Along.fetching h hwork
  | stopsLooking =>
    cases h with
    | looking h => simpa [tookUp?] using Along.stopped h
  | stopsFetching work =>
    cases h with
    | fetching h _ => simpa [tookUp?] using Along.stopped h
  | @fetches work work' t htries =>
    have hnone : (LoopState.fetching work).tookUp? (.fetching work') = none := by
      cases work <;> rfl
    rw [hnone, Option.toList_none, List.append_nil]
    cases h with
    | fetching h hwork =>
      rcases hwork with rfl | ⟨n, rfl⟩ | ⟨b, rfl⟩
      · rcases Cursor.of_tries_new htries with ⟨hop, rfl⟩ | ⟨n, rfl, rfl⟩
        · exact .fetching (h.fetches (.inl hop)) (.inl rfl)
        · exact .fetching (h.fetches (.inl rfl)) (.inr (.inl ⟨_, rfl⟩))
      · rcases Cursor.of_tries_query htries with ⟨hop, rfl⟩ | ⟨b, -, rfl, rfl⟩
        · exact .fetching (h.fetches (.inr ⟨n, hop⟩)) (.inr (.inl ⟨n, rfl⟩))
        · exact .fetching (h.fetches (.inr ⟨n, rfl⟩)) (.inr (.inr ⟨b, rfl⟩))
      · cases htries
  | takes b =>
    cases h with
    | fetching h _ => exact .processing h rfl rfl (.nil _)
  | @works cursor work work' t htries =>
    have hnone : (LoopState.processing cursor work).tookUp? (.processing cursor work') = none := rfl
    rw [hnone, Option.toList_none, List.append_nil]
    cases h with
    | processing h htaken hlife hpart =>
      subst hlife
      exact .processing h htaken (List.append_assoc _ _ _) (hpart.snoc htries)
  | finishes cursor =>
    cases h with
    | processing h htaken hlife hpart =>
      subst htaken hlife
      simpa [tookUp?] using Along.looking (h.processes hpart)

/-- A block that is finished was stored. -/
theorem Finished.stored (h : relay.Finished blocks life) {b : RawBlock} (hb : b ∈ blocks) :
    (⟨.storeBlock (.ofRaw relay.chain b), .ok ()⟩ : Deed) ∈ life := by
  induction h with
  | none => cases hb
  | fetches _ _ ih => exact List.mem_append_left _ (ih hb)
  | processes _ hpart ih =>
    rcases List.mem_append.1 hb with hb | hb
    · exact List.mem_append_left _ (ih hb)
    · rw [List.mem_singleton.1 hb]
      obtain ⟨parts, tries, rfl, -, -⟩ := of_leads_processBlock_done hpart
      simp

/-- The transactions of a block do not count it. -/
theorem not_counted_of_relayEnvelope {b : RawBlock} {e : Envelope} {part : List Deed}
    (h : Leads (relay.relayEnvelope b e) part (.done ())) : .blocksProcessed ∉ counted part := by
  obtain ⟨counter, hshows⟩ := Visit.shows_of_leads (v := (⟨b, e, (), part, ()⟩ : Visit Unit)) h
  have hcounted : counted part = counter.toList := hshows.counted
  rw [hcounted, Option.mem_toList]
  exact hshows.verdict.ne_blocksProcessed

/-- Processing a block to its end counts it once. -/
theorem count_of_processBlock {b : RawBlock} {part : List Deed}
    (h : Leads (relay.processBlock b) part (.done ())) :
    (counted part).count .blocksProcessed = 1 := by
  obtain ⟨parts, tries, rfl, hparts, htries⟩ := of_leads_processBlock_done h
  have hnowhere {envelopes : List Envelope} {parts : List (List Deed)}
      (hparts : List.Forall₂ (fun e part => Leads (relay.relayEnvelope b e) part (.done ()))
        envelopes parts) : (counted parts.flatten).count .blocksProcessed = 0 := by
    induction hparts with
    | nil => rfl
    | cons hpart _ ih =>
      rw [List.flatten_cons, counted_append, List.count_append, ih,
        List.count_eq_zero.2 (not_counted_of_relayEnvelope hpart)]
  have hnone : counted tries = [] :=
    counted_of_no_count fun t ht => by simp [op_of_refusals htries t ht]
  rw [counted_append, List.count_append, hnowhere hparts, counted_append, hnone]
  rfl

/-- As many blocks are counted as are finished. -/
theorem Finished.counted (h : relay.Finished blocks life) :
    (Deed.counted life).count .blocksProcessed = blocks.length := by
  induction h with
  | none => rfl
  | @fetches blocks past t _ hop ih =>
    have hnone : Deed.counted [t] = [] := counted_of_no_count fun u hu => by
      rw [List.mem_singleton.1 hu]
      rcases hop with hop | ⟨n, hop⟩ <;> simp [hop]
    rw [counted_append, hnone, List.append_nil, ih]
  | processes _ hpart ih =>
    rw [counted_append, List.count_append, ih, count_of_processBlock hpart, List.length_append]
    rfl

end Relay

/-! ## Counting -/

/-- A counter moves by as much as was counted, as far as a counter goes. -/
theorem RelayStats.tally_foldl (counters : List Counter) (s : RelayStats) (c : Counter) :
    (counters.foldl count s).tally c = s.tally c + UInt64.ofNat (counters.count c) := by
  induction counters generalizing s with
  | nil => simp
  | cons counter counters ih =>
    rw [List.foldl_cons, ih, tally_count, List.count_cons, UInt64.ofNat_add]
    by_cases hc : counter = c
    · rw [if_pos hc, if_pos (beq_iff_eq.2 hc), UInt64.add_assoc, UInt64.add_comm 1]
      rfl
    · simp [hc]

/-! ## The law -/

namespace RunningLoop

variable {relay : Relay} {links : RelayLinks σ} {stats : σ → RelayStats}
  {events : List (LoopEvent σ)} {world : σ} {value : Bool}

/-- What a loop has behind it, and the counts: those that it started with, and what its
journal has counted since. -/
structure Accounted (relay : Relay) (stats : σ → RelayStats) (world : σ) (x : RunningLoop σ) :
    Prop where
  along : relay.Along x.taken x.site.life x.site.loop
  stats : stats x.site.world = (counted x.site.life).foldl RelayStats.count (stats world)

theorem Accounted.happen (hcounts : links.Counts stats) {x : RunningLoop σ}
    (h : x.Accounted relay stats world) {e : LoopEvent σ}
    (houtside : ∀ change, e = .outside change → ∀ s, stats (change s) = stats s) :
    (happen relay links.perform e x).Accounted relay stats world := by
  cases e with
  | turn turn =>
    rw [RunningLoop.happen]
    have hturn := @Site.happen_turn σ relay links.perform x.signal turn x.site
    rcases hturn with ⟨loop', hmoves, hsite⟩ | ⟨op, loop', hmoves, hsite⟩
    · rw [hsite]
      exact ⟨by simpa using h.along.moves hmoves, h.stats⟩
    · rw [hsite]
      refine ⟨h.along.moves hmoves, ?_⟩
      dsimp only
      have hone (t : Deed) (s : RelayStats) :
          (counted? t).elim s s.count = (counted [t]).foldl RelayStats.count s := by
        rw [counted, List.filterMap_cons]
        cases counted? t <;> rfl
      rw [hcounts.perform_stats ⟨op, (links.perform op x.site.world).1⟩, h.stats, counted_append,
        List.foldl_append, hone]
  | send value => exact ⟨h.along, h.stats⟩
  | drop => exact ⟨h.along, h.stats⟩
  | outside change => exact ⟨h.along, (houtside change rfl _).trans h.stats⟩

/-- What a loop leaves when it has stopped: every block that its cursor handed out was
processed to its end and stored, and counted besides those that were counted before. -/
structure Settled (relay : Relay) (stats : σ → RelayStats) (world : σ) (x : RunningLoop σ) :
    Prop where
  finished : relay.Finished x.taken x.site.life
  stored {b : RawBlock} : b ∈ x.taken →
    (⟨.storeBlock (.ofRaw relay.chain b), .ok ()⟩ : Deed) ∈ x.site.life
  blocksProcessed : (stats x.site.world).blocksProcessed
    = (stats world).blocksProcessed + UInt64.ofNat x.taken.length

/-- Whatever the order of its turns, of what is sent to it and of what the world does, a loop
that has stopped has finished every block that it took up; and it was told to stop, if false
was never sent to it. -/
theorem stops_when_told_between_blocks (hcounts : links.Counts stats)
    (houtside : ∀ change, .outside change ∈ events → ∀ s, stats (change s) = stats s)
    (hstopped : (play relay links.perform events (begun world value)).site.loop = .stopped) :
    (.send false ∉ events → value = true ∨ .send true ∈ events ∨ .drop ∈ events) ∧
      (play relay links.perform events (begun world value)).Settled relay stats world := by
  have hbegun : (begun world value).Accounted relay stats world := ⟨.looking .none, rfl⟩
  have hafter : (play relay links.perform events (begun world value)).Accounted relay stats world :=
    play_invariant hbegun fun e he x hx =>
      hx.happen hcounts fun change heq => houtside change (heq ▸ he)
  obtain ⟨halong, hstats⟩ := hafter
  rw [hstopped] at halong
  cases halong with
  | stopped hfinished =>
    refine ⟨told_of_stopped hstopped, hfinished, hfinished.stored, ?_⟩
    have hblocks := RelayStats.tally_foldl
      (counted (play relay links.perform events (begun world value)).site.life) (stats world)
      .blocksProcessed
    rw [← hstats, hfinished.counted] at hblocks
    exact hblocks

end RunningLoop

/-! ### One block, and then the end

A loop takes up the block of the bench and is told to stop when it waits for the next. A
channel that has told it nothing but false stops it as well; and a block that the relay has
processed before the loop began is counted, though the loop did not take it up. -/

namespace Bench

/-- The loop works for the first block until it waits for the second, and then the sender
goes. -/
def oneBlock : List (LoopEvent (Bench × RelayStats)) :=
  List.replicate 13 (.turn .work) ++ [.drop, .turn .notice]

/-- The bench and the counts after its block has been processed without a loop. -/
def processedAlone : Bench × RelayStats :=
  ((relay.processBlock block).run countedLinks.perform 0 (start, {})).2

end Bench

namespace RunningLoop

theorem eq_stopped_of_isStopped {loop : LoopState} (h : loop.isStopped = true) :
    loop = .stopped := by
  cases loop <;> cases h
  rfl

open Bench in
theorem one_block_settled :
    countedLinks.Counts Prod.snd ∧
      (∀ change : Bench × RelayStats → Bench × RelayStats, .outside change ∈ oneBlock →
        ∀ s, (change s).2 = s.2) ∧
      (play Bench.relay countedLinks.perform oneBlock (begun (start, {}) false)).site.loop
        = .stopped ∧
      (play Bench.relay countedLinks.perform oneBlock (begun (start, {}) false)).taken = [block] ∧
      (play Bench.relay countedLinks.perform oneBlock (begun (start, {}) false)).Settled Bench.relay
        Prod.snd (start, {}) := by
  have houtside : ∀ change : Bench × RelayStats → Bench × RelayStats,
      .outside change ∈ oneBlock → ∀ s, (change s).2 = s.2 := by
    intro change h
    simp [oneBlock] at h
  have hstopped : (play Bench.relay countedLinks.perform oneBlock
      (begun (start, {}) false)).site.loop = .stopped :=
    eq_stopped_of_isStopped (by decide +kernel)
  have htaken : (play Bench.relay countedLinks.perform oneBlock
      (begun (start, {}) false)).taken = [block] := by decide +kernel
  exact ⟨countedLinks_counts, houtside, hstopped, htaken,
    (stops_when_told_between_blocks countedLinks_counts houtside hstopped).2⟩

open Bench in
/-- A loop that takes up nothing leaves a count of one: that of the block processed before it
began. -/
theorem counted_without_loop :
    (play Bench.relay countedLinks.perform [.turn .work] (begun processedAlone true)).site.loop
        = .stopped ∧
      (play Bench.relay countedLinks.perform [.turn .work] (begun processedAlone true)).taken = [] ∧
      (play Bench.relay countedLinks.perform [.turn .work]
        (begun processedAlone true)).site.world.2.blocksProcessed = 1 := by
  refine ⟨rfl, rfl, ?_⟩
  decide +kernel

open Bench in
/-- A loop that waits for a block is stopped by any value, even by false. -/
theorem stopped_by_false :
    (play Bench.relay countedLinks.perform [.turn .work, .send false, .turn .notice]
      (begun (start, {}) false)).site.loop = .stopped :=
  rfl

end RunningLoop

end RelayHub
