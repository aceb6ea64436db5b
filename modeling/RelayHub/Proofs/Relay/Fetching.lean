/-
Fetching block after block, with calls that are given up.

A fetch carries out the script of the next block, and returns the block or is given up when
it has waited long enough. What happens to a cursor is told by events: those of its
fetches, with every operation that the links performed, and that it is set back. A cursor is
at the last block that was returned, or at its origin before there is one, and the numbers
returned count up from the origin.

A call can also be dropped in the middle of a try, whose answer then is lost.
`Fetching.Step` goes through a call operation by operation and lets it be given up
anywhere, so a trail of such steps is any use of one cursor at all, and every fetch is one.
What each step keeps is proved for trails, and so it holds of fetches.
-/
import Mathlib.Data.List.Chain
import Mathlib.Data.List.DropRight
import RelayHub.Proofs.Relay.Landed

set_option autoImplicit false

namespace RelayHub

open Script

/-! ## What happens to a cursor -/

/-- Something that happens to a cursor: a call for the next block begins, an
operation is tried, the call returns with a block or is given up, or the cursor is
set back. -/
inductive CursorEvent where
  | call
  | tried (t : Deed)
  | returned (b : RawBlock)
  | giveUp
  | reset (number : UInt64)

namespace CursorEvent

/-- Where the cursor is set to. -/
def reset? : CursorEvent → Option UInt64
  | reset n => some n
  | _ => none

/-- The number that the store says a chain has come to. -/
def found? : CursorEvent → Option UInt64
  | tried ⟨.latest, .ok n⟩ => some n
  | _ => none

/-- The block that a call returns. -/
def returned? : CursorEvent → Option RawBlock
  | returned b => some b
  | _ => none

/-- How a call ends: it returns its block, or it is given up without one. -/
def ending : Option RawBlock → CursorEvent
  | some b => returned b
  | none => giveUp

end CursorEvent

open CursorEvent

/-- Where a cursor started last: where it was set to last, or else what the
store said first. -/
def origin? (past : List CursorEvent) : Option UInt64 :=
  ((past.filterMap reset?).getLast?).or (past.filterMap found?).head?

/-- The blocks returned since the cursor was last set to a number, in order. -/
def handedOut (past : List CursorEvent) : List RawBlock :=
  (past.rtakeWhile fun e => e.reset?.isNone).filterMap returned?

/-- The blocks returned, as numbers behind the origin. -/
def numbersFrom (origin : UInt64) (past : List CursorEvent) : List UInt64 :=
  origin :: (handedOut past).map RawBlock.number

section Events

variable {past : List CursorEvent} {e : CursorEvent}

theorem origin?_reset (n : UInt64) : origin? (past ++ [.reset n]) = some n := by
  have hresets : (past ++ [CursorEvent.reset n]).filterMap reset? = past.filterMap reset? ++ [n] :=
    List.filterMap_append
  rw [origin?, hresets, List.getLast?_concat, Option.some_or]

theorem handedOut_reset (n : UInt64) : handedOut (past ++ [.reset n]) = [] := by
  rw [handedOut, List.rtakeWhile_concat_neg _ _ _ (by simp [reset?]), List.filterMap_nil]

/-- An event that finds no number leaves the origin alone. -/
theorem origin?_snoc (hreset : e.reset? = none) (hfound : e.found? = none) :
    origin? (past ++ [e]) = origin? past := by
  rw [origin?, List.filterMap_append, List.filterMap_append,
    List.filterMap_cons_none hreset, List.filterMap_cons_none hfound]
  simp [origin?]

/-- The first number that is found is the origin. -/
theorem origin?_found {n : UInt64} (horigin : origin? past = none) (hreset : e.reset? = none)
    (hfound : e.found? = some n) : origin? (past ++ [e]) = some n := by
  rw [origin?, Option.or_eq_none_iff] at horigin
  rw [origin?, List.filterMap_append, List.filterMap_append, List.filterMap_cons_none hreset,
    List.filterMap_cons_some hfound, List.filterMap_nil, List.append_nil, horigin.1,
    List.head?_eq_none_iff.1 horigin.2]
  rfl

theorem handedOut_snoc (hreset : e.reset? = none) :
    handedOut (past ++ [e]) = handedOut past ++ e.returned?.toList := by
  have hkept : e.reset?.isNone = true := by rw [hreset]; rfl
  have hsince : (past ++ [e]).rtakeWhile (fun e => e.reset?.isNone)
      = past.rtakeWhile (fun e => e.reset?.isNone) ++ [e] :=
    List.rtakeWhile_concat_pos _ _ _ hkept
  rw [handedOut, hsince, List.filterMap_append]
  cases hreturned : e.returned? with
  | none => rw [List.filterMap_cons_none hreturned]; rfl
  | some b => rw [List.filterMap_cons_some hreturned]; rfl

end Events

/-! ## The steps of a cursor -/

/-- A cursor between two calls, or with a call under way: one that looks for
where to start, or one that asks for the block after a position, and has it when
nothing is left to do. -/
inductive Fetching where
  | resting (c : Cursor)
  | resolving (c : Cursor) (work : RelayScript UInt64)
  | asking (position : UInt64) (work : RelayScript RawBlock)

namespace Fetching

/-- The cursor that is left when a call is given up. -/
def left : Fetching → Cursor
  | resting c => c
  | resolving c _ => c
  | asking position _ => .after position

/-- A call asks for a block as soon as it knows where to start. -/
def resolvedTo (c : Cursor) : RelayScript UInt64 → Fetching
  | .done position => asking position (Cursor.query (position + 1))
  | work => resolving c work

/-- What can happen next. A call that has its block returns it, if the answer is not lost
on the way. -/
inductive Step : Fetching → CursorEvent → Fetching → Prop where
  | call (c : Cursor) : Step (resting c) .call (resolvedTo c c.resolve)
  | resolve {c : Cursor} {work work' : RelayScript UInt64} {t : Deed} (h : Tries work t work') :
      Step (resolving c work) (.tried t) (resolvedTo c work')
  | ask {position : UInt64} {work work' : RelayScript RawBlock} {t : Deed}
      (h : Tries work t work') : Step (asking position work) (.tried t) (asking position work')
  | hand (position : UInt64) (b : RawBlock) :
      Step (asking position (.done b)) (.returned b) (resting (.after (position + 1)))
  | giveUp (f : Fetching) : Step f .giveUp (resting f.left)
  | reset (c : Cursor) (n : UInt64) : Step (resting c) (.reset n) (resting (.after n))

/-- A trail of steps, with what happens on it. -/
inductive Trail (start : Fetching) : List CursorEvent → Fetching → Prop where
  | nil : Trail start [] start
  | snoc {past : List CursorEvent} {e : CursorEvent} {f f' : Fetching} (h : Trail start past f)
      (last : Step f e f') : Trail start (past ++ [e]) f'

/-! ## What each step keeps -/

/-- A call only looks for where to start if that is not known, and then it asks
for the very next block. When it has that, the ledger has just given it. -/
def Asks (past : List CursorEvent) : Fetching → Prop
  | resting _ => True
  | resolving c work => c = .new ∧ work = .insist .latest succeeded
  | asking position work => work = Cursor.query (position + 1) ∨
      ∃ earlier b, past = earlier ++ [.tried ⟨.query b.number, .ok b⟩] ∧ b.number = position + 1 ∧
        work = .done b

/-- A cursor that is at the last block returned, all of which follow each other
from the origin. -/
structure Follows (past : List CursorEvent) (c : Cursor) : Prop where
  unstarted : origin? past = none → handedOut past = [] ∧ c = .new
  started {s : UInt64} : origin? past = some s →
    (numbersFrom s past).IsChain (fun n n' => n' = n + 1) ∧
      c.position = (numbersFrom s past).getLast?

/-- Every block that is returned is one that the ledger has just given for its number. -/
def Delivered (past : List CursorEvent) : Prop :=
  ∀ pre b post, past = pre ++ .returned b :: post →
    ∃ earlier, pre = earlier ++ [.tried ⟨.query b.number, .ok b⟩]

theorem asks_call (past : List CursorEvent) (c : Cursor) : (resolvedTo c c.resolve).Asks past := by
  obtain ⟨_ | n⟩ := c
  · exact ⟨rfl, rfl⟩
  · exact .inl rfl

theorem left_call (c : Cursor) : (resolvedTo c c.resolve).left = c := by
  obtain ⟨_ | n⟩ := c <;> rfl

/-- The start is asked for until the store says it. -/
theorem of_tries_latest {t : Deed} {work : RelayScript UInt64}
    (h : Tries (.insist .latest succeeded) t work) :
    (found? (.tried t) = none ∧ work = .insist .latest succeeded) ∨
      ∃ n, t = ⟨.latest, .ok n⟩ ∧ work = .done n := by
  cases h with
  | @accepted _ _ answer _ _ n hn => exact .inr ⟨n, by rw [eq_ok_of_succeeded hn], rfl⟩
  | @refused _ _ answer _ _ h =>
    cases answer with
    | ok n => cases h
    | error x => exact .inl ⟨rfl, rfl⟩

namespace Follows

variable {past : List CursorEvent} {e : CursorEvent} {c : Cursor}

theorem new : Follows [] .new :=
  ⟨fun _ => ⟨rfl, rfl⟩, fun h => nomatch h⟩

theorem reset (n : UInt64) : Follows (past ++ [.reset n]) (.after n) := by
  refine ⟨fun h => ?_, fun {s} h => ?_⟩
  · rw [origin?_reset] at h
    cases h
  · rw [origin?_reset] at h
    cases h
    rw [numbersFrom, handedOut_reset]
    exact ⟨.singleton n, rfl⟩

/-- Nothing changes by an event that neither sets nor finds a start, and returns
no block. -/
theorem quiet (h : Follows past c) (hreset : e.reset? = none) (hfound : e.found? = none)
    (hreturned : e.returned? = none) : Follows (past ++ [e]) c := by
  have hhanded : handedOut (past ++ [e]) = handedOut past := by
    rw [handedOut_snoc hreset, hreturned, Option.toList_none, List.append_nil]
  refine ⟨fun hnone => ?_, fun {s} hsome => ?_⟩
  · rw [origin?_snoc hreset hfound] at hnone
    rw [hhanded]
    exact h.unstarted hnone
  · rw [origin?_snoc hreset hfound] at hsome
    rw [numbersFrom, hhanded]
    exact h.started hsome

/-- A cursor that did not know where to start is at its origin when it does. -/
theorem found (h : Follows past .new) (n : UInt64) :
    Follows (past ++ [.tried ⟨.latest, .ok n⟩]) (.after n) := by
  have horigin : origin? past = none := by
    cases hs : origin? past with
    | none => rfl
    | some s =>
      have hposition := (h.started hs).2
      rw [numbersFrom, List.getLast?_cons] at hposition
      cases hposition
  have hhanded : handedOut (past ++ [.tried ⟨.latest, .ok n⟩]) = [] := by
    rw [handedOut_snoc rfl, (h.unstarted horigin).1]
    rfl
  have hnow := origin?_found (e := .tried ⟨.latest, .ok n⟩) horigin rfl rfl
  refine ⟨fun hnone => ?_, fun {s} hsome => ?_⟩
  · rw [hnow] at hnone
    cases hnone
  · rw [hnow] at hsome
    cases hsome
    rw [numbersFrom, hhanded]
    exact ⟨.singleton n, rfl⟩

/-- A block that is returned is the one after the last. -/
theorem returned {n : UInt64} {b : RawBlock} (h : Follows past (.after n))
    (hb : b.number = n + 1) : Follows (past ++ [.returned b]) (.after (n + 1)) := by
  have hhanded : handedOut (past ++ [.returned b]) = handedOut past ++ [b] := handedOut_snoc rfl
  refine ⟨fun hnone => ?_, fun {s} hsome => ?_⟩
  · rw [origin?_snoc rfl rfl] at hnone
    cases (h.unstarted hnone).2
  · rw [origin?_snoc rfl rfl] at hsome
    obtain ⟨hchain, hposition⟩ := h.started hsome
    have hnumbers : numbersFrom s (past ++ [.returned b]) = numbersFrom s past ++ [b.number] := by
      rw [numbersFrom, hhanded, List.map_append, numbersFrom]
      rfl
    rw [hnumbers, List.getLast?_concat, hb]
    refine ⟨List.isChain_append.2 ⟨hchain, .singleton _, fun m hm m' hm' => ?_⟩, rfl⟩
    have hlast : some m = some n := by
      rw [← Option.mem_def.1 hm, ← hposition]
      rfl
    cases hlast
    cases hm'
    rfl

end Follows

theorem Delivered.snoc {past : List CursorEvent} {e : CursorEvent} (h : Delivered past)
    (hlast : ∀ b, e = .returned b →
      ∃ earlier, past = earlier ++ [.tried ⟨.query b.number, .ok b⟩]) :
    Delivered (past ++ [e]) := by
  intro pre b post hsplit
  rcases append_eq_split hsplit with ⟨mid, hpast, -⟩ | ⟨pre', rfl, he⟩
  · exact h pre b mid hpast
  · cases pre' with
    | nil =>
      cases he
      rw [List.append_nil]
      exact hlast b rfl
    | cons first others => simp at he

/-- What holds of a cursor on every trail. -/
structure Sound (past : List CursorEvent) (f : Fetching) : Prop where
  asks : f.Asks past
  follows : Follows past f.left
  delivered : Delivered past

/-- What a step keeps. -/
theorem Step.keeps {past : List CursorEvent} {f f' : Fetching} {e : CursorEvent}
    (h : Step f e f') (hsound : f.Sound past) : f'.Sound (past ++ [e]) := by
  obtain ⟨hasks, hfollows, hdelivered⟩ := hsound
  cases h with
  | call c =>
    refine ⟨asks_call _ c, ?_, hdelivered.snoc nofun⟩
    rw [left_call]
    exact hfollows.quiet rfl rfl rfl
  | resolve h =>
    obtain ⟨rfl, rfl⟩ := hasks
    rcases of_tries_latest h with ⟨hfound, rfl⟩ | ⟨n, rfl, rfl⟩
    · exact ⟨⟨rfl, rfl⟩, hfollows.quiet rfl hfound rfl, hdelivered.snoc nofun⟩
    · exact ⟨.inl rfl, hfollows.found n, hdelivered.snoc nofun⟩
  | @ask _ _ _ t h =>
    rcases hasks with rfl | ⟨earlier, b, -, -, rfl⟩
    · rcases Cursor.of_tries_query h with ⟨hop, rfl⟩ | ⟨b, hb, rfl, rfl⟩
      · obtain ⟨op, answer⟩ := t
        cases hop
        exact ⟨.inl rfl, hfollows.quiet rfl rfl rfl, hdelivered.snoc nofun⟩
      · exact ⟨.inr ⟨past, b, by rw [hb], hb, rfl⟩, hfollows.quiet rfl rfl rfl,
          hdelivered.snoc nofun⟩
    · cases h
  | hand position b =>
    rcases hasks with hopen | ⟨earlier, b', hpast, hb, hwork⟩
    · cases hopen
    · cases hwork
      refine ⟨trivial, hfollows.returned hb, hdelivered.snoc fun b' he => ?_⟩
      cases he
      exact ⟨earlier, hpast⟩
  | giveUp f => exact ⟨trivial, hfollows.quiet rfl rfl rfl, hdelivered.snoc nofun⟩
  | reset c n => exact ⟨trivial, .reset n, hdelivered.snoc nofun⟩

/-! ## Trails -/

namespace Trail

variable {start f g : Fetching} {past past' : List CursorEvent}

theorem one {e : CursorEvent} (h : Step f e g) : Trail f [e] g :=
  .snoc .nil h

theorem append (h : Trail start past f) (h' : Trail f past' g) : Trail start (past ++ past') g := by
  induction h' with
  | nil => rwa [List.append_nil]
  | snoc _ last ih =>
    rw [← List.append_assoc]
    exact .snoc ih last

theorem cons {e : CursorEvent} (first : Step start e f) (h : Trail f past g) :
    Trail start (e :: past) g :=
  (one first).append h

theorem sound (h : Trail (resting .new) past f) : f.Sound past := by
  induction h with
  | nil => exact ⟨trivial, .new, fun pre b post hpast => by simp at hpast⟩
  | snoc _ last ih => exact last.keeps ih

end Trail

/-! ## Fetches -/

theorem trail_resolve {c : Cursor} {work work' : RelayScript UInt64} {past : List Deed}
    (h : Leads work past work') :
    Trail (resolvedTo c work) (past.map .tried) (resolvedTo c work') := by
  induction h with
  | nil => exact .nil
  | @cons work _ _ t _ first _ ih =>
    have hopen : resolvedTo c work = resolving c work := by cases first <;> rfl
    rw [hopen]
    exact .cons (.resolve first) ih

theorem trail_ask {n : UInt64} {work work' : RelayScript RawBlock} {past : List Deed}
    (h : Leads work past work') : Trail (asking n work) (past.map .tried) (asking n work') := by
  induction h with
  | nil => exact .nil
  | cons first _ ih => exact .cons (.ask first) ih

end Fetching

namespace Cursor

variable {σ : Type}

/-- The operations of a fetch, with their answers: those of the script of the next
block, as the links perform them. -/
def deeds (p : RelayLinks σ) (c : Cursor) (patience : Nat) (s : σ) : List Deed :=
  (c.next.run (journaled p.perform) patience (s, [])).2.2

/-- What happens to a cursor by a fetch. -/
def events (p : RelayLinks σ) (c : Cursor) (patience : Nat) (s : σ) : List CursorEvent :=
  .call :: (c.deeds p patience s).map .tried ++ [.ending (c.fetch p patience s).1.block]

/-- A cursor that is new, and after that has been used for fetches and has been set back, with
what happened to it. Each fetch has its own links, world and patience. -/
inductive Used : List CursorEvent → Cursor → Prop where
  | new : Used [] .new
  | fetch {past : List CursorEvent} {c : Cursor} (h : Used past c) {σ : Type} (p : RelayLinks σ)
      (patience : Nat) (s : σ) :
      Used (past ++ c.events p patience s) (c.fetch p patience s).1.cursor
  | reset {past : List CursorEvent} {c : Cursor} (h : Used past c) (n : UInt64) :
      Used (past ++ [.reset n]) (.after n)

variable (p : RelayLinks σ) (c : Cursor) (patience : Nat) (s : σ)

/-- A fetch runs the script of the next block. -/
theorem fetch_eq :
    (c.fetch p patience s).1.block = (c.next.run p.perform patience s).1.1.value? ∧
      (c.fetch p patience s).1.patience = (c.next.run p.perform patience s).1.2 ∧
      (c.fetch p patience s).2 = (c.next.run p.perform patience s).2 := by
  have hnext : c.next = c.resolve.andThen fun position => query (position + 1) := rfl
  rw [hnext]
  unfold fetch
  rcases hresolve : c.resolve.run p.perform patience s with ⟨⟨work, left⟩, s₁⟩
  cases work with
  | attempt op accept next =>
    rw [run_andThen_open hresolve rfl]
    exact ⟨rfl, rfl, rfl⟩
  | done position =>
    rw [run_andThen hresolve]
    dsimp only
    rcases (query (position + 1)).run p.perform left s₁ with ⟨⟨_ | _, left'⟩, s₂⟩ <;>
      exact ⟨rfl, rfl, rfl⟩

open Fetching in
/-- A fetch is a call that returns its block or is given up. -/
theorem fetch_trail :
    Trail (resting c) (c.events p patience s) (resting (c.fetch p patience s).1.cursor) := by
  have hnext : c.next = c.resolve.andThen fun position => query (position + 1) := rfl
  rcases hlook : c.resolve.run (journaled p.perform) patience (s, [])
    with ⟨⟨work, left⟩, s₁, looks⟩
  have hresolve : c.resolve.run p.perform patience s = ((work, left), s₁) := run_unkept hlook
  obtain ⟨_, rfl, -, hlooks⟩ := run_journaled hlook
  have hlooked : Trail (resting c) (.call :: looks.map .tried) (resolvedTo c work) :=
    .cons (.call c) (trail_resolve hlooks)
  cases work with
  | attempt op accept next =>
    have hdeeds : c.deeds p patience s = looks := by
      rw [deeds, hnext, run_andThen_open hlook rfl]
    have hfetch : (c.fetch p patience s).1 = ⟨none, c, left⟩ := by rw [fetch, hresolve]
    rw [events, hdeeds, hfetch]
    exact hlooked.snoc (.giveUp _)
  | done position =>
    rcases hask : (query (position + 1)).run (journaled p.perform) left (s₁, looks)
      with ⟨⟨work, left'⟩, s₂, asked⟩
    have hquery : (query (position + 1)).run p.perform left s₁ = ((work, left'), s₂) :=
      run_unkept hask
    obtain ⟨asks, rfl, -, hasks⟩ := run_journaled hask
    have hasked :
        Trail (resting c) (.call :: (looks ++ asks).map .tried) (asking position work) := by
      rw [List.map_append]
      exact hlooked.append (trail_ask hasks)
    have hdeeds : c.deeds p patience s = looks ++ asks := by
      rw [deeds, hnext, run_andThen hlook, hask]
    rw [events, hdeeds, fetch, hresolve]
    dsimp only
    rw [hquery]
    cases work with
    | done b => exact hasked.snoc (.hand position b)
    | attempt op accept next => exact hasked.snoc (.giveUp _)

variable {c}

/-- A cursor that has been used is on a trail. -/
theorem Used.trail {past : List CursorEvent} (h : Used past c) :
    Fetching.Trail (.resting .new) past (.resting c) := by
  induction h with
  | new => exact .nil
  | fetch _ p patience s ih => exact ih.append (fetch_trail p _ patience s)
  | reset _ n ih => exact ih.snoc (.reset _ n)

/-- The script of the next block goes on with what it asked for. -/
theorem takes_next (c : Cursor) : Takes Deed.landed c.next := by
  have hresolve : Takes Deed.landed c.resolve := by
    obtain ⟨_ | n⟩ := c
    · exact .insist fun answer hnone => by simp [Deed.landed, hnone]
    · exact .done n
  exact hresolve.andThen fun position => .insist fun answer hnone => by simp [Deed.landed, hnone]

end Cursor

/-! ## What a cursor hands out -/

/-- Numbers each of which follows the one before it, as long as they fit into a
word. -/
theorem toNat_of_isChain {s : UInt64} {numbers : List UInt64}
    (h : (s :: numbers).IsChain fun n n' => n' = n + 1)
    (hfits : s.toNat + numbers.length < twoTo 64) :
    numbers.map UInt64.toNat = List.range' (s.toNat + 1) numbers.length := by
  induction numbers generalizing s with
  | nil => rfl
  | cons n numbers ih =>
    obtain ⟨rfl, hrest⟩ := List.isChain_cons_cons.1 h
    rw [List.length_cons] at hfits
    have hnext : (s + 1).toNat = s.toNat + 1 := by
      have hsize : twoTo 64 = 2 ^ 64 := rfl
      rw [UInt64.toNat_add, UInt64.toNat_one, Nat.mod_eq_of_lt (by omega)]
    have hfollowing := ih hrest (by omega)
    rw [List.map_cons, List.length_cons, List.range'_succ, hfollowing, hnext]

/-- What a cursor has handed out: the blocks behind its origin, one by one, each
given by the ledger when asked for that number, and the cursor stands at the
last of them. -/
structure GapFree (past : List CursorEvent) (c : Cursor) : Prop where
  unstarted : origin? past = none → handedOut past = [] ∧ c.position = none
  numbered {s : UInt64} : origin? past = some s → s.toNat + (handedOut past).length < twoTo 64 →
    (handedOut past).map (fun b => b.number.toNat)
      = List.range' (s.toNat + 1) (handedOut past).length
  given {pre post : List CursorEvent} {b : RawBlock} : past = pre ++ .returned b :: post →
    ∃ earlier, pre = earlier ++ [.tried ⟨.query b.number, .ok b⟩]
  position {s : UInt64} : origin? past = some s →
    c.position = ((handedOut past).getLast?.map RawBlock.number).or (some s)

theorem Fetching.Trail.gapFree {past : List CursorEvent} {f : Fetching}
    (h : Trail (resting .new) past f) : GapFree past f.left := by
  obtain ⟨-, hfollows, hdelivered⟩ := h.sound
  refine ⟨fun hnone => ?_, fun {s} hsome hfits => ?_, fun hpast => hdelivered _ _ _ hpast,
    fun {s} hsome => ?_⟩
  · obtain ⟨hhanded, hnew⟩ := hfollows.unstarted hnone
    exact ⟨hhanded, by rw [hnew]; rfl⟩
  · have hchain := (hfollows.started hsome).1
    have hnumbers := toNat_of_isChain hchain (by rwa [List.length_map])
    rwa [List.map_map, List.length_map] at hnumbers
  · rw [(hfollows.started hsome).2, numbersFrom, List.getLast?_cons, List.getLast?_map]
    cases (handedOut past).getLast? <;> rfl

/-- What a fetch does: its operations are performed by the links, one after the other, from
the state before it to the state after it. They go through the script of the next block, and
the fetch returns what the script comes to. It returns without a block only if it was
refused more often than it may wait. Told step by step, it is a trail. -/
structure Cursor.Performs {σ : Type} (p : RelayLinks σ) (c : Cursor) (patience : Nat) (s : σ) :
    Prop where
  plays : Plays p.perform s (c.deeds p patience s) (c.fetch p patience s).2
  leads : ∃ rest, Leads c.next (c.deeds p patience s) rest ∧
    rest.value? = (c.fetch p patience s).1.block
  waits : (c.fetch p patience s).1.block = none →
    patience < ungranted Deed.landed (c.deeds p patience s)
  trail : Fetching.Trail (.resting c) (c.events p patience s)
    (.resting (c.fetch p patience s).1.cursor)

theorem Cursor.performs {σ : Type} (p : RelayLinks σ) (c : Cursor) (patience : Nat) (s : σ) :
    c.Performs p patience s := by
  rcases hrun : c.next.run (journaled p.perform) patience (s, []) with ⟨⟨rest, left⟩, s', past⟩
  have hplain : c.next.run p.perform patience s = ((rest, left), s') := run_unkept hrun
  have hdeeds : c.deeds p patience s = past := by rw [deeds, hrun]
  obtain ⟨hblock, -, hstate⟩ := fetch_eq p c patience s
  rw [hplain] at hblock hstate
  have hwaits := (takes_next c).run hrun
  obtain ⟨_, rfl, hplays, hleads⟩ := run_journaled hrun
  refine ⟨?_, ⟨rest, ?_, hblock.symm⟩, fun hnone => ?_, fetch_trail p c patience s⟩
  · rw [hdeeds, hstate]
    exact hplays
  · rw [hdeeds]
    exact hleads
  · rw [hdeeds]
    rcases hwaits with ⟨b, rfl⟩ | hrefused
    · rw [hblock] at hnone
      cases hnone
    · simpa [ungranted] using hrefused

/-- A cursor hands out blocks without a gap, whatever the store and the ledger
answer, however it is used for fetches, which may be given up, and set back. A fetch does what
its events tell of it. And a call may be given up anywhere, in the middle of a try as
well. -/
theorem Cursor.fetches_without_gap :
    (∀ (past : List CursorEvent) (c : Cursor), Used past c → GapFree past c) ∧
    (∀ {σ : Type} (p : RelayLinks σ) (c : Cursor) (patience : Nat) (s : σ),
      c.Performs p patience s) ∧
    ∀ (past : List CursorEvent) (f : Fetching), Fetching.Trail (.resting .new) past f →
      GapFree past f.left :=
  ⟨fun _ _ h => h.trail.gapFree, performs, fun _ _ h => h.gapFree⟩

/-! ### Calls that are given up

A store and a ledger answer from lists of answers. The store fails, and then says that it
has come to block four. The ledger does not have block five at first, so the call is given
up; the next one is offered another block before the right one. -/

/-- Takes the next answer of a list, and fails when there is none left. -/
def takeAnswer {ε α : Type} (otherwise : ε) : Action (List (Except ε α)) ε α :=
  Action.of fun
    | [] => (.error otherwise, [])
    | answer :: rest => (answer, rest)

/-- The answers of a store and of a ledger that are still to come. -/
abbrev AnswersToCome := List (Except StoreError UInt64) × List (Except LedgerError RawBlock)

/-- Links that answer from lists. -/
def answering : RelayLinks AnswersToCome where
  chain := ⟨"A"⟩
  store :=
    { hasSeen := fun _ => pure false
      recordSeen := fun _ => pure true
      storeBlock := fun _ => pure ()
      latest := fun _ =>
        (takeAnswer (.database (.io "closed"))).within ⟨Prod.fst, fun l s => (l, s.2)⟩
      byNumber := fun _ _ => pure none
      byHash := fun _ _ => pure none
      transaction := fun _ => pure none }
  ledger :=
    { query := fun _ _ =>
        (takeAnswer (.unavailable "closed")).within ⟨Prod.snd, fun l s => (s.1, l)⟩
      invoke := fun _ _ => pure (.ok []) }
  dispatch _ := throw ⟨.unavailable, "closed"⟩
  count _ := pure ()

/-- A block that is nothing but a number. -/
def numberedBlock (n : UInt64) : RawBlock := ⟨n, "", "", "", 0, [], []⟩

/-- What is answered to the first call and after it. -/
def answersAtFirst : AnswersToCome :=
  ([.error (.database (.io "disk")), .ok 4],
    [.error (.notFound ⟨"A"⟩ 5), .ok (numberedBlock 9), .ok (numberedBlock 5)])

/-- What the first call leaves. -/
def answersLater : AnswersToCome := ([], [.ok (numberedBlock 9), .ok (numberedBlock 5)])

/-- What happens to the cursor. -/
def fetchingFive : List CursorEvent :=
  [.call, .tried ⟨.latest, .error (.database (.io "disk"))⟩, .tried ⟨.latest, .ok 4⟩,
    .tried ⟨.query 5, .error (.notFound ⟨"A"⟩ 5)⟩, .giveUp,
    .call, .tried ⟨.query 5, .ok (numberedBlock 9)⟩, .tried ⟨.query 5, .ok (numberedBlock 5)⟩,
    .returned (numberedBlock 5)]

/-- A third call, which is dropped as block six is on its way. -/
def losingSix : List CursorEvent :=
  [.call, .tried ⟨.query 6, .ok (numberedBlock 6)⟩, .giveUp]

open Fetching in
theorem Cursor.fetches_five_after_four :
    (new.fetch answering 1 answersAtFirst).2 = answersLater ∧
      (after 4).Performs answering 1 answersLater ∧
      Used fetchingFive (.after 5) ∧ origin? fetchingFive = some 4 ∧
      handedOut fetchingFive = [numberedBlock 5] ∧ GapFree fetchingFive (.after 5) ∧
      Trail (.resting .new) (fetchingFive ++ losingSix) (.resting (.after 5)) ∧
      GapFree (fetchingFive ++ losingSix) (.after 5) := by
  have hused : Used fetchingFive (.after 5) :=
    (Used.new.fetch answering 1 answersAtFirst).fetch answering 1 answersLater
  have hgiven : Tries (query 6) ⟨.query 6, .ok (numberedBlock 6)⟩ (.done (numberedBlock 6)) :=
    .accepted rfl
  have hlost : Trail (.resting (.after 5)) losingSix (.resting (.after 5)) :=
    .cons (.call _) <| .cons (.ask hgiven) <| .one (.giveUp _)
  have htrail := hused.trail.append hlost
  exact ⟨rfl, fetches_without_gap.2.1 answering (.after 4) 1 answersLater, hused, rfl, rfl,
    fetches_without_gap.1 _ _ hused, htrail, fetches_without_gap.2.2 _ _ htrail⟩

end RelayHub
