/-
Retries leave no trace.

While a block is processed, reads and writes of the store may fail, dispatches
may fail for the moment, and contract calls may fail or be refused, anywhere and
as often as there are failures left. What fails is tried again, that and nothing
else: the block is through with the failures if it is without them, and then
both have done the same. That it is through without them is up to the store, the
ledger and the destinations. Every operation is insisted on, so the block is through
just if each of them is granted in the end, and one call that the ledger never carries
out holds the relay for ever.
-/
import RelayHub.Proofs.Relay.Landed
import RelayHub.Proofs.Relay.Verified

set_option autoImplicit false

namespace RelayHub

open Script Deed RelayHub.Action

variable {σ τ : Type}

/-! ## Journals that differ in failures -/

/-- The counter that a deed counted. -/
def Deed.counted? : Deed → Option Counter
  | ⟨.count counter, _⟩ => some counter
  | _ => none

/-- What a journal counted, in order. -/
def Deed.counted (past : List Deed) : List Counter :=
  past.filterMap counted?

theorem Deed.counted?_eq_none {t : Deed} (h : t.landed = false) : t.counted? = none := by
  unfold counted?
  split
  · cases h
  · rfl

/-- What only deeds that landed show is the same if these are. -/
theorem filterMap_eq_of_landed {β : Type} {f : Deed → Option β} {past past' : List Deed}
    (hf : ∀ t : Deed, t.landed = false → f t = none)
    (h : past'.filter landed = past.filter landed) : past'.filterMap f = past.filterMap f := by
  have hall : ∀ past : List Deed, (past.filter landed).filterMap f = past.filterMap f := by
    intro past
    rw [List.filterMap_filter]
    congr 1
    funext t
    cases hlanded : t.landed with
    | true => rfl
    | false => exact (hf t hlanded).symm
  rw [← hall past', h, hall past]

/-! ## Planned failures -/

/-- What operations answer if they fail: none of it lands. -/
structure Mishap where
  store : StoreError
  hub : HubError
  ledger : Except LedgerError ContractResponse
  query : LedgerError
  transient : hub.isTransient = true
  refused : Accept.carriedOut ledger = none

/-- Which of the next operations fail, and how. When the plan is used up, none
do. -/
abbrev Mishaps := List (Option Mishap)

namespace Mishaps

/-- How many of a plan are still to come. -/
def left (plan : Mishaps) : Nat :=
  plan.countP Option.isSome

/-- The same action, which fails without being tried whenever the plan says so. -/
def befall {ε α : Type} (answer : Mishap → Except ε α) (a : Action σ ε α) :
    Action (σ × Mishaps) ε α :=
  Action.of fun (s, plan) =>
    match plan with
    | some m :: plan => (answer m, s, plan)
    | _ => ((a.perform s).1, (a.perform s).2, plan.tail)

/-- An action fails and a mishap is over, or the action is what it was. -/
theorem befall_outcome {ε α : Type} {answer : Mishap → Except ε α} {a : Action σ ε α}
    (landed : Except ε α → Bool) (hanswer : ∀ m, landed (answer m) = false) (x : σ × Mishaps) :
    (landed ((befall answer a).perform x).1 = false ∧ ((befall answer a).perform x).2.1 = x.1 ∧
        ((befall answer a).perform x).2.2.left < x.2.left) ∨
      (a.perform x.1 = (((befall answer a).perform x).1, ((befall answer a).perform x).2.1) ∧
        ((befall answer a).perform x).2.2.left ≤ x.2.left) := by
  rcases x with ⟨s, _ | ⟨_ | m, plan⟩⟩
  · exact .inr ⟨rfl, Nat.le_refl _⟩
  · exact .inr ⟨rfl, Nat.le_of_eq (List.countP_cons_of_neg Bool.false_ne_true).symm⟩
  · refine .inl ⟨hanswer m, rfl, ?_⟩
    have hone : Mishaps.left (some m :: plan) = Mishaps.left plan + 1 := List.countP_cons_of_pos rfl
    rw [hone]
    exact Nat.lt_succ_self _

end Mishaps

/-- The same links, with mishaps. Counting has none. -/
def RelayLinks.mishandled (links : RelayLinks σ) : RelayLinks (σ × Mishaps) where
  chain := links.chain
  store :=
    { hasSeen := fun txHash => Mishaps.befall (.error ·.store) (links.store.hasSeen txHash)
      recordSeen := fun r => Mishaps.befall (.error ·.store) (links.store.recordSeen r)
      storeBlock := fun b => Mishaps.befall (.error ·.store) (links.store.storeBlock b)
      latest := fun chain => Mishaps.befall (.error ·.store) (links.store.latest chain)
      byNumber := fun chain n => Mishaps.befall (.error ·.store) (links.store.byNumber chain n)
      byHash := fun chain hash => Mishaps.befall (.error ·.store) (links.store.byHash chain hash)
      transaction := fun txHash =>
        Mishaps.befall (.error ·.store) (links.store.transaction txHash) }
  ledger :=
    { query := fun chain n => Mishaps.befall (.error ·.query) (links.ledger.query chain n)
      invoke := fun chain call => Mishaps.befall Mishap.ledger (links.ledger.invoke chain call) }
  dispatch q := Mishaps.befall (.error ·.hub) (links.dispatch q)
  count counter x := (links.count counter x.1).map id fun s => (s, x.2)

/-- Links with mishaps disturb the links without them, whatever the plan. -/
theorem RelayLinks.mishandled_disturbs (links : RelayLinks σ) :
    Disturbs landed links.mishandled.perform links.perform Prod.fst fun x => x.2.left := by
  intro op x
  cases op with
  | latest => exact Mishaps.befall_outcome (fun r => landed ⟨.latest, r⟩) (fun _ => rfl) x
  | query n =>
    exact Mishaps.befall_outcome (fun r => landed ⟨.query n, r⟩) (fun _ => rfl) x
  | hasSeen txHash =>
    exact Mishaps.befall_outcome (fun r => landed ⟨.hasSeen txHash, r⟩) (fun _ => rfl) x
  | dispatch q =>
    refine Mishaps.befall_outcome (fun r => landed ⟨.dispatch q, r⟩) (fun m => ?_) x
    change (Accept.settled (.error m.hub)).isSome = false
    rw [Accept.settled, m.transient]
    rfl
  | recordSeen r =>
    exact Mishaps.befall_outcome (fun answer => landed ⟨.recordSeen r, answer⟩) (fun _ => rfl) x
  | invoke call =>
    refine Mishaps.befall_outcome (fun r => landed ⟨.invoke call, r⟩) (fun m => ?_) x
    change (Accept.carriedOut m.ledger).isSome = false
    rw [m.refused]
    rfl
  | storeBlock b =>
    exact Mishaps.befall_outcome (fun r => landed ⟨.storeBlock b, r⟩) (fun _ => rfl) x
  | count counter => exact .inr ⟨rfl, Nat.le_refl _⟩

/-! ## Failures leave no trace -/

namespace Relay

/-- A block is processed to its end, in a given patience, with a journal. -/
def Processes (relay : Relay) (links : RelayLinks σ) (b : RawBlock) (patience : Nat) (s s' : σ)
    (past : List Deed) : Prop :=
  ∃ left, run (journaled links.perform) (relay.processBlock b) patience (s, [])
    = ((.done (), left), s', past)

/-- Two journals of which one has other failures, but the same deeds that landed;
so the contract calls that were carried out are the same, and so is what was
counted. -/
structure SameEffects (past' past : List Deed) : Prop where
  landed : past'.filter landed = past.filter landed
  calls : carriedOut past' = carriedOut past
  counts : counted past' = counted past

/-- A block is processed to its end, with enough patience, if the relay never gets stuck with
it, and only then. -/
theorem processes_iff_neverStuck {relay : Relay} {links : RelayLinks σ} {b : RawBlock} {s : σ} :
    (∃ patience s' past, relay.Processes links b patience s s' past) ↔
      NeverStuck landed links.perform (relay.processBlock b) s := by
  constructor
  · rintro ⟨patience, s', past, left, hrun⟩
    exact (heeds_processBlock relay b).neverStuck_of_over (run_unkept hrun)
  · intro hnever
    obtain ⟨patience, left, s', ⟨⟩, hrun⟩ := (heeds_processBlock relay b).over_of_neverStuck hnever
    obtain ⟨past, hkept⟩ := run_kept hrun []
    exact ⟨patience, s', past, left, hkept⟩

/-- Failures that change nothing do not change what is done with a block. It is
processed to its end with them if it is without them, and may wait once more for
each; it is not if it is not; and at the end the store, the ledger and all else
that is seen are the same, and so is what was done. It is processed to its end if
every operation that the relay comes to without the failures lands in the end, and only
then. -/
theorem retries_are_transparent {links : RelayLinks σ} {failing : RelayLinks τ} {view : τ → σ}
    {left : τ → Nat} (h : Disturbs landed failing.perform links.perform view left) (relay : Relay)
    (b : RawBlock) (t : τ) :
    (∀ patience s' past, relay.Processes links b patience (view t) s' past →
      ∃ t' past', relay.Processes failing b (patience + left t) t t' past') ∧
    (∀ patience t' past', relay.Processes failing b patience t t' past' →
      ∃ s' past, relay.Processes links b patience (view t) s' past) ∧
    (∀ patience patience' s' t' past past', relay.Processes links b patience (view t) s' past →
      relay.Processes failing b patience' t t' past' → view t' = s' ∧ SameEffects past' past) ∧
    (NeverStuck landed links.perform (relay.processBlock b) (view t) ↔
      ∃ patience t' past', relay.Processes failing b patience t t' past') := by
  have hheeds := heeds_processBlock relay b
  have hdisturbed : ∀ patience s' past, relay.Processes links b patience (view t) s' past →
      ∃ t' past', relay.Processes failing b (patience + left t) t t' past' := by
    rintro patience s' past ⟨waits, hrun⟩
    obtain ⟨waits', t', past', hrun'⟩ := h.run_disturbed hheeds hrun
    exact ⟨t', past', waits', hrun'⟩
  have hcalm : ∀ patience t' past', relay.Processes failing b patience t t' past' →
      ∃ s' past, relay.Processes links b patience (view t) s' past := by
    rintro patience t' past' ⟨waits, hrun⟩
    obtain ⟨waits', past, hrun', -⟩ := h.run_calm hheeds hrun
    exact ⟨view t', past, waits', hrun'⟩
  refine ⟨hdisturbed, hcalm, ?_, ?_⟩
  · rintro patience patience' s' t' past past' ⟨waits, hrun⟩ ⟨waits', hrun'⟩
    obtain ⟨hview, hlanded⟩ := h.runs_agree hheeds hrun hrun'
    exact ⟨hview, hlanded, filterMap_eq_of_landed (fun _ => carriedOut?_eq_none) hlanded,
      filterMap_eq_of_landed (fun _ => counted?_eq_none) hlanded⟩
  · rw [← processes_iff_neverStuck]
    constructor
    · rintro ⟨patience, s', past, hruns⟩
      exact ⟨_, hdisturbed patience s' past hruns⟩
    · rintro ⟨patience, t', past', hruns⟩
      exact ⟨patience, hcalm patience t' past' hruns⟩

end Relay

/-! ### One block, with mishaps

The block of the bench is processed while every operation on the way fails once. -/

namespace Bench

/-- The relay of the chain that asks. -/
def relay : Relay := ⟨chain, "router"⟩

/-- The links at the bench. -/
def links : RelayLinks Bench :=
  .onBench chain fun _ => .ok response

/-- A mishap. -/
def mishap : Mishap where
  store := .database (.io "disk full")
  hub := ⟨.unavailable, "connection refused"⟩
  ledger := .ok ⟨500, "endorsement failed", []⟩
  query := .unavailable "peer down"
  transient := rfl
  refused := rfl

/-- Every other operation fails. -/
def mishaps : Mishaps :=
  [some mishap, none, some mishap, none, some mishap, none, some mishap, none, some mishap]

end Bench

namespace Relay

theorem block_with_mishaps :
    Disturbs landed Bench.links.mishandled.perform Bench.links.perform Prod.fst (·.2.left) ∧
    Bench.mishaps.left = 5 ∧
    NeverStuck landed Bench.links.perform (Bench.relay.processBlock Bench.block) Bench.start ∧
    ∃ s' past t' past',
      Bench.relay.Processes Bench.links Bench.block 0 Bench.start s' past ∧
      Bench.relay.Processes Bench.links.mishandled Bench.block 5 (Bench.start, Bench.mishaps)
        t' past' ∧
      t'.2.left = 0 ∧ t'.1 = s' ∧ SameEffects past' past := by
  have hdisturbs := Bench.links.mishandled_disturbs
  obtain ⟨hdone, -, hagree, hnever⟩ := retries_are_transparent hdisturbs Bench.relay Bench.block
    (Bench.start, Bench.mishaps)
  have hover : (run (journaled Bench.links.perform) (Bench.relay.processBlock Bench.block) 0
      (Bench.start, [])).1.1.value? = some () := by
    decide +kernel
  have hruns : Bench.relay.Processes Bench.links Bench.block 0 Bench.start _ _ :=
    run_of_value? hover
  obtain ⟨t', past', waits, hrun'⟩ := hdone 0 _ _ hruns
  have hused : (run (journaled Bench.links.mishandled.perform)
      (Bench.relay.processBlock Bench.block) (0 + Bench.mishaps.left)
      ((Bench.start, Bench.mishaps), [])).2.1.2.left = 0 := by
    decide +kernel
  rw [hrun'] at hused
  exact ⟨hdisturbs, rfl, hnever.2 ⟨_, t', past', waits, hrun'⟩, _, _, t', past', hruns,
    ⟨waits, hrun'⟩, hused, hagree 0 5 _ t' _ past' hruns ⟨waits, hrun'⟩⟩

end Relay

/-! ### A call that is never carried out

A request may name a callback that its own chain refuses whenever it is tried. -/

namespace Relay

/-- A block is never done if the relay comes to an operation that does not land
then, and neither afterwards. -/
theorem not_processes_of_stuck {relay : Relay} {links : RelayLinks σ} {b : RawBlock} {s : σ}
    (op : RelayOp) (stuck : σ → Prop)
    (hop : (run links.perform (relay.processBlock b) 0 s).1.1.op? = some op)
    (hs : stuck (run links.perform (relay.processBlock b) 0 s).2)
    (hstuck : ∀ s, stuck s →
      landed ⟨op, (links.perform op s).1⟩ = false ∧ stuck (links.perform op s).2)
    (patience : Nat) (s' : σ) (past : List Deed) :
    ¬ relay.Processes links b patience s s' past := by
  rintro ⟨left, hrun⟩
  have hnever := (heeds_processBlock relay b).never_over hop hstuck hs patience
  rw [run_unkept hrun] at hnever
  cases hnever

end Relay

namespace Pair

/-- A callback to a function that the routing contract does not have. -/
def misdirected : CallbackDescriptor where
  chaincode := "router"
  function := "NoSuch"
  args := []

/-- The call that it asks for. -/
def misdirectedCall : Invocation where
  contract := "router"
  function := "NoSuch"
  args := []

/-- The call that registers a request with this callback. -/
def registration : Invocation where
  contract := "router"
  function := Contract.invoke
  args := [chainA.bytes, chainB.bytes, Utf8.encode "tx-1", Utf8.encode "1",
    InvokePayload.encode ⟨none, "fabcar", "QueryCar", ["CAR1"], some misdirected⟩, []]

/-- Nothing is stored, and the request has been registered on a new chain. -/
def registered : Bench :=
  (.empty, ((MemoryLedger.ledger.invoke chainA registration).perform
    (MemoryLedger.empty.addChain chainA "router" "proxy")).2)

/-- The links of a relay to that chain, which get the same answer to every
request. -/
def linksToA : RelayLinks Bench :=
  .onBench chainA fun _ => .ok (carAnswer (some misdirected))

/-- The block of the request, as the ledger tells it. -/
def registeredBlock : RawBlock :=
  (linksToA.perform (.query 1) registered).1.toOption.getD Bench.block

theorem query_registered : (linksToA.perform (.query 1) registered).1 = .ok registeredBlock := by
  have hanswered : (linksToA.perform (.query 1) registered).1.toOption.isSome = true := by
    decide +kernel
  rw [registeredBlock]
  cases hquery : (linksToA.perform (.query 1) registered).1 with
  | ok block => rfl
  | error e =>
    rw [hquery] at hanswered
    cases hanswered

/-- A bench at which the chain has its routing contract. -/
def Routes (s : Bench) : Prop :=
  s.2.router? chainA = some misdirectedCall.contract

instance (s : Bench) : Decidable (Routes s) :=
  inferInstanceAs (Decidable (s.2.router? chainA = some misdirectedCall.contract))

/-- Once the callback is refused, it is refused ever after. -/
theorem misdirectedCall_refused {s : Bench} (hs : Routes s) :
    landed ⟨.invoke misdirectedCall, (linksToA.perform (.invoke misdirectedCall) s).1⟩ = false ∧
      Routes (linksToA.perform (.invoke misdirectedCall) s).2 := by
  obtain ⟨⟨e, herror⟩, hkept⟩ := MemoryLedger.invoke_wrongFunction hs (by decide)
  have hanswer : (linksToA.perform (.invoke misdirectedCall) s).1 = .error e := herror
  refine ⟨?_, hkept⟩
  rw [hanswer]
  rfl

end Pair

open Pair

/-- Nothing fails but what must, and the block is never done: its request is
answered, and the relay makes the callback again and again. -/
theorem Relay.misdirected_callback_never_ends :
    (linksToA.perform (.query 1) registered).1 = .ok registeredBlock ∧
      ∀ patience s' past,
        ¬ relayA.Processes linksToA registeredBlock patience registered s' past := by
  have hop : (run linksToA.perform (relayA.processBlock registeredBlock) 0 registered).1.1.op?
      = some (.invoke misdirectedCall) := by decide +kernel
  have hs : Routes (run linksToA.perform (relayA.processBlock registeredBlock) 0 registered).2 := by
    decide +kernel
  exact ⟨query_registered,
    not_processes_of_stuck _ Routes hop hs fun _ hs => misdirectedCall_refused hs⟩

end RelayHub
