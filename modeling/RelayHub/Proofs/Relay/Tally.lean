/-
What a relay counts adds up.

Counting is an operation like any other, so a journal says what was counted, and
the course of a request says that a transaction counts once or, if it is passed
over, not at all. A `Visit` is a relay's way through one transaction; its verdict
says which counter it moves, by what the store and the other hubs answered on the
way. Calls that process blocks are visits and one more count each, and the counts
of a run are those of its calls, for as long as none of them overflows.
-/
import RelayHub.Proofs.Relay.Transparent

set_option autoImplicit false

namespace RelayHub

open Script Deed RelayHub.Action

variable {σ : Type}

/-! ## Counts -/

namespace RelayStats

/-- What a counter has come to. -/
def tally (s : RelayStats) : Counter → UInt64
  | .blocksProcessed => s.blocksProcessed
  | .requestsRelayed => s.requestsRelayed
  | .duplicatesSkipped => s.duplicatesSkipped
  | .dispatchFailures => s.dispatchFailures
  | .malformedRequests => s.malformedRequests

/-- Counting moves one counter by one, and no other. -/
theorem tally_count (s : RelayStats) (counter c : Counter) :
    (s.count counter).tally c = if counter = c then s.tally c + 1 else s.tally c := by
  cases counter <;> cases c <;> rfl

/-- A counter that does not overflow comes to what was counted. -/
theorem toNat_tally_foldl {counters : List Counter} {s : RelayStats} {c : Counter}
    (h : (s.tally c).toNat + counters.count c < UInt64.size) :
    ((counters.foldl count s).tally c).toNat = (s.tally c).toNat + counters.count c := by
  induction counters generalizing s with
  | nil => rfl
  | cons counter counters ih =>
    rw [List.foldl_cons]
    rw [List.count_cons] at h ⊢
    have hmoved : ((s.count counter).tally c).toNat
        = (s.tally c).toNat + if counter == c then 1 else 0 := by
      rw [tally_count]
      split
      · rename_i heq
        rw [if_pos (by simpa using heq)] at h ⊢
        have hroom : (s.tally c).toNat + (1 : UInt64).toNat < UInt64.size := by
          change _ + 1 < _
          omega
        rw [UInt64.toNat_add]
        exact Nat.mod_eq_of_lt hroom
      · rename_i hne
        rw [if_neg (by simpa using hne)]
        rfl
    rw [ih (by omega), hmoved]
    omega

end RelayStats

/-- Links that count where nothing else does: the store, the ledger and the
other hubs keep their hands off the counts. -/
structure RelayLinks.Counts (p : RelayLinks σ) (stats : σ → RelayStats) : Prop where
  store : p.store.Spares stats
  query (number : UInt64) (s : σ) :
    stats ((p.ledger.query p.chain number).perform s).2 = stats s
  invoke (call : Invocation) (s : σ) :
    stats ((p.ledger.invoke p.chain call).perform s).2 = stats s
  dispatch (q : CrossChainRequest) (s : σ) : stats ((p.dispatch q).perform s).2 = stats s
  count (counter : Counter) (s : σ) : stats (p.count counter s).2 = (stats s).count counter

namespace RelayLinks.Counts

variable {p : RelayLinks σ} {stats : σ → RelayStats} (h : p.Counts stats)
include h

/-- An operation moves the counter that it counts, if it counts one. -/
theorem perform_stats (t : Deed) (s : σ) :
    stats (p.perform t.op s).2 = (counted? t).elim (stats s) (stats s).count := by
  obtain ⟨op, answer⟩ := t
  cases op with
  | latest => exact (h.store.latest p.chain).outcome s
  | query number => exact h.query number s
  | hasSeen txHash => exact (h.store.hasSeen txHash).outcome s
  | dispatch q => exact h.dispatch q s
  | recordSeen r => exact (h.store.recordSeen r).outcome s
  | invoke call => exact h.invoke call s
  | storeBlock b => exact (h.store.storeBlock b).outcome s
  | count counter => exact h.count counter s

/-- After a journal the counts have moved by what it counted. -/
theorem stats_of_plays {past : List Deed} {s s' : σ} (hplays : Plays p.perform s past s') :
    stats s' = (counted past).foldl RelayStats.count (stats s) := by
  induction hplays with
  | nil s => rfl
  | @cons s s' t past first rest ih =>
    rw [ih, h.perform_stats t s, counted, counted, List.filterMap_cons]
    cases counted? t <;> rfl

end RelayLinks.Counts

/-! ## What a journal counted, looked up and was told -/

namespace Deed

/-- What a deed found out about the record of a transaction. -/
def lookup? : Deed → Option (String × Bool)
  | ⟨.hasSeen txHash, .ok found⟩ => some (txHash, found)
  | _ => none

/-- What a deed was told by another hub, and about which request. -/
def reply? : Deed → Option (CrossChainRequest × Except HubError HubResponse)
  | ⟨.dispatch q, answer⟩ => some (q, answer)
  | _ => none

theorem counted_append (past past' : List Deed) :
    counted (past ++ past') = counted past ++ counted past' :=
  List.filterMap_append

end Deed

theorem counted_of_no_count {past : List Deed} (h : ∀ t ∈ past, ∀ counter, t.op ≠ .count counter) :
    counted past = [] := by
  refine List.filterMap_eq_nil_iff.2 fun t ht => ?_
  obtain ⟨op, answer⟩ := t
  cases op with
  | count counter => exact absurd rfl (h _ ht counter)
  | _ => rfl

theorem replies_of_no_dispatch {past : List Deed} (h : ∀ t ∈ past, ∀ q, t.op ≠ .dispatch q) :
    past.filterMap Deed.reply? = [] := by
  refine List.filterMap_eq_nil_iff.2 fun t ht => ?_
  obtain ⟨op, answer⟩ := t
  cases op with
  | dispatch q => exact absurd rfl (h _ ht q)
  | _ => rfl

/-- Whether a transaction of a block is not passed over. -/
def RawBlock.asks (b : RawBlock) (e : Envelope) : Bool :=
  e.request? b ≠ .ok none

namespace Relay

/-! ## Visits -/

/-- A relay's way through one transaction of a block: where it began, what was
done, and where it ended. -/
structure Visit (σ : Type) where
  block : RawBlock
  envelope : Envelope
  before : σ
  deeds : List Deed
  after : σ

namespace Visit

/-- What is read out of the transaction. -/
def request? (v : Visit σ) : Except ExtractError (Option CrossChainRequest) :=
  v.envelope.request? v.block

/-- What the store said about the record of a transaction, when it first said
something. -/
def lookup? (v : Visit σ) : Option (String × Bool) :=
  v.deeds.findSome? Deed.lookup?

/-- What the other hub said at last, and about which request. -/
def reply? (v : Visit σ) : Option (CrossChainRequest × Except HubError HubResponse) :=
  (v.deeds.filterMap Deed.reply?).getLast?

/-- The counter that was counted first. -/
def counter (v : Visit σ) : Option Counter :=
  (counted v.deeds).head?

/-- Whether a visit moves a counter. -/
def moves (c : Counter) (v : Visit σ) : Bool :=
  v.counter == some c

/-- A visit that a relay made, to its end. -/
structure Made (relay : Relay) (links : RelayLinks σ) (v : Visit σ) : Prop where
  leads : Leads (relay.relayEnvelope v.block v.envelope) v.deeds (.done ())
  plays : Plays links.perform v.before v.deeds v.after

/-- Which counter a visit moves, and why. -/
inductive Verdict (relay : Relay) (v : Visit σ) : Option Counter → Prop where
  /-- The transaction is passed over. -/
  | other (hrequest : v.request? = .ok none) : Verdict relay v none
  /-- It looks like a request and is none. -/
  | unreadable {e : ExtractError} (hrequest : v.request? = .error e) :
      Verdict relay v (some .malformedRequests)
  /-- The request is another chain's. -/
  | foreign {q : CrossChainRequest} (hrequest : v.request? = .ok (some q))
      (hforeign : q.origin ≠ relay.chain) : Verdict relay v (some .malformedRequests)
  /-- It has a record. -/
  | duplicate {q : CrossChainRequest} (hrequest : v.request? = .ok (some q))
      (horigin : q.origin = relay.chain) (hlookup : v.lookup? = some (q.found.txHash, true)) :
      Verdict relay v (some .duplicatesSkipped)
  /-- It has none, and was refused for good. -/
  | refused {q : CrossChainRequest} {e : HubError} (hrequest : v.request? = .ok (some q))
      (horigin : q.origin = relay.chain) (hlookup : v.lookup? = some (q.found.txHash, false))
      (hreply : v.reply? = some (q, .error e)) (hfinal : e.isTransient = false) :
      Verdict relay v (some .dispatchFailures)
  /-- It has none, and was answered. -/
  | relayed {q : CrossChainRequest} {r : HubResponse} (hrequest : v.request? = .ok (some q))
      (horigin : q.origin = relay.chain) (hlookup : v.lookup? = some (q.found.txHash, false))
      (hreply : v.reply? = some (q, .ok r)) : Verdict relay v (some .requestsRelayed)

end Visit

theorem Visit.Verdict.ne_blocksProcessed {relay : Relay} {v : Visit σ} {counter : Option Counter}
    (h : v.Verdict relay counter) : counter ≠ some .blocksProcessed := by
  cases h <;> simp

/-- A visit moves one of four counters exactly if its transaction is not passed
over. -/
theorem Visit.Verdict.weighs {relay : Relay} {v : Visit σ} (h : v.Verdict relay v.counter) :
    (v.moves .requestsRelayed).toNat + (v.moves .duplicatesSkipped).toNat
        + (v.moves .dispatchFailures).toNat + (v.moves .malformedRequests).toNat
      = (v.block.asks v.envelope).toNat := by
  have hasks : v.block.asks v.envelope = decide (v.request? ≠ .ok none) := rfl
  simp only [hasks, moves]
  generalize v.counter = counter at h
  -- What was read out of the transaction says whether it counts.
  cases h with
  | other hrequest | unreadable hrequest | foreign hrequest | duplicate hrequest
  | refused hrequest | relayed hrequest =>
    rw [hrequest]
    rfl

/-- What is found to have a record is a duplicate. -/
theorem Visit.Verdict.of_found {relay : Relay} {v : Visit σ} (h : v.Verdict relay v.counter)
    {q : CrossChainRequest} (hrequest : v.request? = .ok (some q)) (horigin : q.origin = relay.chain)
    (hlookup : v.lookup? = some (q.found.txHash, true)) : v.counter = some .duplicatesSkipped := by
  generalize v.counter = counter at h
  cases h with
  | duplicate => rfl
  | other hother | unreadable hother => cases hother.symm.trans hrequest
  | foreign hsame hforeign =>
    cases hsame.symm.trans hrequest
    exact absurd horigin hforeign
  | refused _ _ hnone | relayed _ _ hnone => simp [hlookup] at hnone

/-- A visit to a request that an earlier visit has relayed. -/
def Repeats (relay : Relay) (v w : Visit σ) : Prop :=
  ∃ q q', v.request? = .ok (some q) ∧ v.counter = some .requestsRelayed ∧
    w.request? = .ok (some q') ∧ q'.origin = relay.chain ∧ q'.found.txHash = q.found.txHash

/-! ### The journal of a visit -/

section Parts

variable {q : CrossChainRequest} {past : List Deed}

/-- A record that was looked up is what the journal shows first. -/
theorem lookup_of_looks {looks rest : List Deed} {found : Bool}
    (h : Refusals (.hasSeen q.found.txHash) succeeded looks) :
    (looks ++ ⟨.hasSeen q.found.txHash, .ok found⟩ :: rest).findSome? Deed.lookup?
      = some (q.found.txHash, found) := by
  have hnone : looks.findSome? Deed.lookup? = none := by
    refine List.findSome?_eq_none_iff.2 fun t ht => ?_
    obtain ⟨answer, rfl, hrefused⟩ := h t ht
    cases answer with
    | error e => rfl
    | ok found => cases hrefused
  rw [List.findSome?_append, hnone]
  rfl

/-- What a journal counted, was told and was answered, it did so behind the
lookup. -/
theorem shows_of_looks {looks rest : List Deed} (found : Bool)
    (h : Refusals (.hasSeen q.found.txHash) succeeded looks) :
    let all := looks ++ ⟨.hasSeen q.found.txHash, .ok found⟩ :: rest
    counted all = counted rest ∧ all.filterMap Deed.reply? = rest.filterMap Deed.reply? ∧
      answers all = answers rest := by
  intro all
  have hops := op_of_refusals h
  have hcounted : counted looks = [] := counted_of_no_count fun t ht => by simp [hops t ht]
  have hreplies : looks.filterMap Deed.reply? = [] :=
    replies_of_no_dispatch fun t ht => by simp [hops t ht]
  have hanswers : answers looks = [] := answers_of_no_dispatch fun t ht => by simp [hops t ht]
  refine ⟨?_, ?_, ?_⟩
  · rw [counted_append, hcounted]
    rfl
  · rw [List.filterMap_append, hreplies]
    rfl
  · rw [answers_append, hanswers]
    rfl

/-- What a journal shows that settles a request, and then writes its record and
makes its calls, if there are any, and counts. -/
theorem shows_of_settled {tries body : List Deed} (answer : Except HubError HubResponse)
    (counter : Counter) (htries : Refusals (.dispatch q) Accept.settled tries)
    (hbody : ∀ t ∈ body, (∃ record, t.op = .recordSeen record) ∨ ∃ call, t.op = .invoke call) :
    let settled := tries ++ ⟨.dispatch q, answer⟩ :: (body ++ [⟨.count counter, ()⟩])
    counted settled = [counter] ∧ (settled.filterMap Deed.reply?).getLast? = some (q, answer) ∧
      answers settled = answers [⟨.dispatch q, answer⟩] := by
  intro settled
  have hops := op_of_refusals htries
  have hnodispatch : ∀ t ∈ body ++ [(⟨.count counter, ()⟩ : Deed)], ∀ q', t.op ≠ .dispatch q' := by
    refine List.forall_mem_append.2 ⟨fun t ht => ?_, by simp⟩
    rcases hbody t ht with ⟨record, hop⟩ | ⟨call, hop⟩ <;> simp [hop]
  refine ⟨?_, ?_, ?_⟩
  · have hbefore : counted tries = [] := counted_of_no_count fun t ht => by simp [hops t ht]
    have hafter : counted body = [] := counted_of_no_count fun t ht => by
      rcases hbody t ht with ⟨record, hop⟩ | ⟨call, hop⟩ <;> simp [hop]
    rw [counted_append, hbefore, List.nil_append, ← List.singleton_append, counted_append,
      counted_append, hafter]
    rfl
  · rw [List.filterMap_append]
    change (_ ++ (q, answer) :: _).getLast? = _
    rw [replies_of_no_dispatch hnodispatch]
    exact List.getLast?_concat
  · rw [answers_append, answers_refused_dispatches htries, List.nil_append,
      ← List.singleton_append, answers_append, answers_of_no_dispatch hnodispatch, List.append_nil]

end Parts

namespace Visit

/-- What the journal of a visit shows. -/
structure Shows (relay : Relay) (v : Visit σ) (counter : Option Counter) : Prop where
  verdict : v.Verdict relay counter
  counted : counted v.deeds = counter.toList
  answered : answers v.deeds ≠ [] → counter = some .requestsRelayed

/-- A visit counts once or, if the transaction is passed over, not at all; which
counter it is depends on what was read, looked up and told. -/
theorem shows_of_leads {relay : Relay} {v : Visit σ}
    (h : Leads (relay.relayEnvelope v.block v.envelope) v.deeds (.done ())) :
    ∃ counter, v.Shows relay counter := by
  obtain ⟨block, envelope, before, deeds, after⟩ := v
  cases passage_of_leads h with
  | malformed hrequest hpast =>
    obtain rfl := eq_of_counting hpast
    exact ⟨_, .unreadable hrequest, rfl, fun hanswers => absurd rfl hanswers⟩
  | other hrequest => exact ⟨_, .other hrequest, rfl, fun hanswers => absurd rfl hanswers⟩
  | @request q _ _ hrequest hcourse =>
    -- A course that is over has counted last; stages that still try are not over.
    cases hcourse with
    | foreign hforeign hafter =>
      obtain rfl := eq_of_counting hafter
      exact ⟨_, .foreign hrequest hforeign, rfl, fun hanswers => absurd rfl hanswers⟩
    | looking _ _ hopen => exact absurd rfl hopen
    | duplicate horigin hlooks hafter =>
      obtain rfl := eq_of_counting hafter
      obtain ⟨hcounted, -, hanswers⟩ := shows_of_looks true hlooks
      exact ⟨_, .duplicate hrequest horigin (lookup_of_looks hlooks), hcounted,
        fun hsome => absurd hanswers hsome⟩
    | dispatching _ _ _ hopen => exact absurd rfl hopen
    | @refused _ tries _ e _ horigin hlooks htries hfinal hafter =>
      obtain rfl := eq_of_counting hafter
      obtain ⟨hcounted, hlast, hanswers⟩ := shows_of_settled (.error e) .dispatchFailures htries
        (List.forall_mem_nil _)
      obtain ⟨hcounted', hreplies, hanswers'⟩ := shows_of_looks false hlooks
      exact ⟨_, .refused hrequest horigin (lookup_of_looks hlooks)
        ((congrArg List.getLast? hreplies).trans hlast) hfinal, hcounted'.trans hcounted,
        fun hsome => absurd (hanswers'.trans hanswers) hsome⟩
    | recording _ _ _ _ hopen => exact absurd rfl hopen
    | @recorded _ _ writes _ r wrote _ horigin hlooks htries hwrites hafter =>
      obtain ⟨calls, rfl, -, hcalls⟩ := of_leads_applying_done hafter
      have hbody : ∀ t ∈ writes ++ ⟨.recordSeen (recordOf q), .ok wrote⟩ :: calls,
          (∃ record, t.op = .recordSeen record) ∨ ∃ call, t.op = .invoke call := by
        simp only [List.forall_mem_append, List.forall_mem_cons]
        refine ⟨fun t ht => .inl ⟨_, op_of_refusals hwrites t ht⟩, .inl ⟨_, rfl⟩, fun t ht => ?_⟩
        obtain ⟨call, -, hop⟩ := hcalls t ht
        exact .inr ⟨call, hop⟩
      obtain ⟨hcounted, hlast, -⟩ := shows_of_settled (.ok r) .requestsRelayed htries hbody
      rw [List.append_assoc, List.cons_append] at hcounted hlast
      obtain ⟨hcounted', hreplies, -⟩ := shows_of_looks false hlooks
      exact ⟨_, .relayed hrequest horigin (lookup_of_looks hlooks)
        ((congrArg List.getLast? hreplies).trans hlast), hcounted'.trans hcounted, fun _ => rfl⟩

section Made

variable {relay : Relay} {links : RelayLinks σ} {v : Visit σ} (h : v.Made relay links)
include h

theorem Made.shows_counter : v.Shows relay v.counter := by
  obtain ⟨counter, hshows⟩ := shows_of_leads h.leads
  have hcounter : v.counter = counter := by
    rw [Visit.counter, hshows.counted]
    cases counter <;> rfl
  rw [hcounter]
  exact hshows

theorem Made.verdict : v.Verdict relay v.counter :=
  h.shows_counter.verdict

/-- The counts move by the counter of the visit, and by nothing else. -/
theorem Made.stats {stats : σ → RelayStats} (hcounts : links.Counts stats) :
    stats v.after = v.counter.elim (stats v.before) (stats v.before).count := by
  rw [hcounts.stats_of_plays h.plays, h.shows_counter.counted]
  cases v.counter <;> rfl

end Made

/-- What a visit has to do with the records of a store. What it is told about them
is so; a request of the chain is a duplicate exactly if there is one where the visit
begins; and the visit leaves one for a request that it relays, and no others. -/
structure Honest (relay : Relay) (entries : σ → ByteMap) (v : Visit σ) : Prop where
  looked {q : CrossChainRequest} : v.request? = .ok (some q) → q.origin = relay.chain →
    v.lookup? = some (q.found.txHash, seen relay.chain (entries v.before) q.found.txHash)
  duplicate_iff : v.counter = some .duplicatesSkipped ↔ ∃ q, v.request? = .ok (some q) ∧
    q.origin = relay.chain ∧ seen relay.chain (entries v.before) q.found.txHash = true
  seenAfter (txHash : String) : seen relay.chain (entries v.after) txHash = true ↔
    seen relay.chain (entries v.before) txHash = true ∨ v.counter = some .requestsRelayed ∧
      ∃ q, v.request? = .ok (some q) ∧ q.found.txHash = txHash

/-- A request of the chain has its record looked up before anything else. -/
theorem of_leads_own {relay : Relay} {b : RawBlock} {e : Envelope} {q : CrossChainRequest}
    {past : List Deed} (h : Leads (relay.relayEnvelope b e) past (.done ()))
    (hrequest : e.request? b = .ok (some q)) (horigin : q.origin = relay.chain) :
    ∃ looks found rest, past = looks ++ ⟨.hasSeen q.found.txHash, .ok found⟩ :: rest ∧
      Refusals (.hasSeen q.found.txHash) succeeded looks := by
  cases passage_of_leads h with
  | malformed hother _ =>
    rw [hrequest] at hother
    cases hother
  | other hother =>
    rw [hrequest] at hother
    cases hother
  | request hsame hcourse =>
    rw [hrequest] at hsame
    cases hsame
    cases hcourse with
    | foreign hforeign _ => exact absurd horigin hforeign
    | looking _ _ hopen => exact absurd rfl hopen
    | duplicate _ hlooks _ => exact ⟨_, _, _, rfl, hlooks⟩
    | dispatching _ _ _ hopen => exact absurd rfl hopen
    | refused _ hlooks _ _ _ => exact ⟨_, _, _, rfl, hlooks⟩
    | recording _ _ _ _ hopen => exact absurd rfl hopen
    | recorded _ hlooks _ _ _ => exact ⟨_, _, _, rfl, hlooks⟩

/-- What a faithful store says about the record of a request is so. -/
theorem Made.looked {relay : Relay} {links : RelayLinks σ} {v : Visit σ} (h : v.Made relay links)
    {entries : σ → ByteMap} (hlinks : links.Faithful entries) (hchain : links.chain = relay.chain)
    {q : CrossChainRequest} (hrequest : v.request? = .ok (some q)) (horigin : q.origin = relay.chain) :
    v.lookup? = some (q.found.txHash, seen relay.chain (entries v.before) q.found.txHash) := by
  obtain ⟨looks, found, rest, hdeeds, hlooks⟩ := of_leads_own h.leads hrequest horigin
  have hplays := h.plays
  rw [hdeeds] at hplays
  obtain ⟨s, hbefore, hfrom⟩ := hplays.split
  -- Lookups that fail change nothing, so the answer is about where the visit began.
  have hsame : entries s = entries v.before := hbefore.keeps entries fun t ht s _ => by
    rw [op_of_refusals hlooks t ht]
    exact hlinks.perform_keeps rfl s
  have hfound : seen relay.chain (entries v.before) q.found.txHash = found := by
    rw [← hsame, ← hchain]
    exact hlinks.hasSeen_answer hfrom.of_cons.1
  rw [hfound, Visit.lookup?, hdeeds]
  exact lookup_of_looks hlooks

theorem Made.honest {relay : Relay} {links : RelayLinks σ} {v : Visit σ} (h : v.Made relay links)
    {entries : σ → ByteMap} (hlinks : links.Faithful entries) (hchain : links.chain = relay.chain) :
    v.Honest relay entries where
  looked := h.looked hlinks hchain
  duplicate_iff := by
    constructor
    · intro hcounter
      have hverdict := h.verdict
      rw [hcounter] at hverdict
      cases hverdict with
      | @duplicate q hrequest horigin hlookup =>
        have hsaid := (h.looked hlinks hchain hrequest horigin).symm.trans hlookup
        exact ⟨q, hrequest, horigin, (Prod.mk.inj (Option.some.inj hsaid)).2⟩
    · rintro ⟨q, hrequest, horigin, hseen⟩
      have hlookup := h.looked hlinks hchain hrequest horigin
      rw [hseen] at hlookup
      exact h.verdict.of_found hrequest horigin hlookup
  seenAfter txHash := by
    have hsettles := settles_of_envelope hlinks hchain h.leads h.plays
    rw [hsettles.seen_iff]
    -- Only an answer leaves a record, and only a visit that relays has one.
    refine or_congr_right ⟨?_, ?_⟩
    · rintro ⟨p, hp, rfl⟩
      obtain ⟨hrequest, -⟩ := (hsettles.of_answered hp).1
      exact ⟨h.shows_counter.answered (List.ne_nil_of_mem hp), p.1, hrequest, rfl⟩
    · rintro ⟨hrelayed, q, hrequest, rfl⟩
      have hverdict := h.verdict
      rw [hrelayed] at hverdict
      cases hverdict with
      | @relayed q' r hrequest' _ _ hreply =>
        obtain rfl : q' = q := by simpa using hrequest'.symm.trans hrequest
        obtain ⟨t, ht, htold⟩ := List.mem_filterMap.1 (List.mem_of_getLast? hreply)
        refine ⟨(q', r), List.mem_filterMap.2 ⟨t, ht, ?_⟩, rfl⟩
        unfold Deed.reply? at htold
        split at htold
        · cases htold
          rfl
        · cases htold

end Visit

/-! ## Calls -/

/-- Visits to transactions of a block, one after the other. -/
inductive Tour (relay : Relay) (links : RelayLinks σ) (b : RawBlock) :
    List Envelope → σ → List (Visit σ) → σ → Prop where
  | nil (s : σ) : Tour relay links b [] s [] s
  | cons {v : Visit σ} {envelopes : List Envelope} {visits : List (Visit σ)} {s' : σ}
      (hblock : v.block = b) (hmade : v.Made relay links)
      (more : Tour relay links b envelopes v.after visits s') :
      Tour relay links b (v.envelope :: envelopes) v.before (v :: visits) s'

namespace Tour

variable {relay : Relay} {links : RelayLinks σ} {b : RawBlock} {envelopes : List Envelope}
  {s s' : σ} {visits : List (Visit σ)}

theorem of_parts {parts : List (List Deed)}
    (hparts : List.Forall₂ (fun e part => Leads (relay.relayEnvelope b e) part (.done ()))
      envelopes parts)
    (hplays : Plays links.perform s parts.flatten s') :
    ∃ visits, Tour relay links b envelopes s visits s' := by
  induction hparts generalizing s with
  | nil =>
    cases hplays
    exact ⟨[], .nil _⟩
  | @cons e part envelopes parts hpart _ ih =>
    obtain ⟨m, hfirst, hrest⟩ := hplays.split
    obtain ⟨visits, hvisits⟩ := ih hrest
    let v : Visit σ := ⟨b, e, s, part, m⟩
    exact ⟨v :: visits, .cons (v := v) rfl ⟨hpart, hfirst⟩ hvisits⟩

theorem made (h : Tour relay links b envelopes s visits s') :
    ∀ v ∈ visits, v.block = b ∧ v.Made relay links := by
  induction h with
  | nil s => simp
  | cons hblock hmade _ ih => exact List.forall_mem_cons.2 ⟨⟨hblock, hmade⟩, ih⟩

/-- The counts move by the counters of the visits, and by nothing else. -/
theorem stats {stats : σ → RelayStats} (hcounts : links.Counts stats)
    (h : Tour relay links b envelopes s visits s') :
    stats s' = (visits.filterMap Visit.counter).foldl RelayStats.count (stats s) := by
  induction h with
  | nil s => rfl
  | @cons v envelopes visits s' _ hmade _ ih =>
    rw [ih, hmade.stats hcounts, List.filterMap_cons]
    cases v.counter <;> rfl

/-- The counters that transactions count, taken together, count those that are
not passed over. -/
theorem total (h : Tour relay links b envelopes s visits s') :
    visits.countP (Visit.moves .requestsRelayed) + visits.countP (Visit.moves .duplicatesSkipped)
        + visits.countP (Visit.moves .dispatchFailures)
        + visits.countP (Visit.moves .malformedRequests)
      = envelopes.countP b.asks := by
  induction h with
  | nil s => rfl
  | @cons v envelopes visits s' hblock hmade _ ih =>
    have hone := hmade.verdict.weighs
    rw [hblock] at hone
    have hcons : ∀ {α : Type} (p : α → Bool) (x : α) (xs : List α),
        (x :: xs).countP p = xs.countP p + (p x).toNat := fun p x xs => by
      rw [List.countP_cons]
      cases p x <;> rfl
    rw [hcons, hcons, hcons, hcons, hcons, ← hone, ← ih]
    omega

section Faithful

variable {entries : σ → ByteMap} (hlinks : links.Faithful entries)
  (hchain : links.chain = relay.chain)
include hlinks hchain

/-- What has a record has it at every visit. -/
theorem seen_before (h : Tour relay links b envelopes s visits s') {txHash : String}
    (hseen : seen relay.chain (entries s) txHash = true) :
    ∀ v ∈ visits, seen relay.chain (entries v.before) txHash = true := by
  induction h with
  | nil s => simp
  | @cons v envelopes visits s' _ hmade _ ih =>
    refine List.forall_mem_cons.2 ⟨hseen, ih ?_⟩
    exact ((hmade.honest hlinks hchain).seenAfter txHash).2 (.inl hseen)

/-- A request that one visit relays is a duplicate at the visits behind it. -/
theorem again (h : Tour relay links b envelopes s visits s') :
    visits.Pairwise fun v w => relay.Repeats v w → w.counter = some .duplicatesSkipped := by
  induction h with
  | nil s => exact .nil
  | @cons v envelopes visits s' _ hmade more ih =>
    refine List.pairwise_cons.2 ⟨fun w hw => ?_, ih⟩
    rintro ⟨q, q', hrequest, hrelayed, hrequest', horigin, hsame⟩
    have hwritten : seen relay.chain (entries v.after) q'.found.txHash = true :=
      ((hmade.honest hlinks hchain).seenAfter _).2 (.inr ⟨hrelayed, q, hrequest, hsame.symm⟩)
    have hseen := more.seen_before hlinks hchain hwritten w hw
    obtain ⟨-, hmade'⟩ := more.made w hw
    exact (hmade'.honest hlinks hchain).duplicate_iff.2 ⟨q', hrequest', horigin, hseen⟩

end Faithful

end Tour

/-- A call that processes a block makes a tour of its transactions, and counts
the block when it is stored. -/
theorem tour_of_run {relay : Relay} {links : RelayLinks σ} {stats : σ → RelayStats}
    (hcounts : links.Counts stats) {b : RawBlock} {patience left : Nat} {s s' : σ}
    (h : (relay.processBlock b).run links.perform patience s = ((.done (), left), s')) :
    ∃ visits s₁, Tour relay links b b.envelopes s visits s₁ ∧
      stats s' = (stats s₁).count .blocksProcessed := by
  obtain ⟨past, hplays, hleads⟩ := journal_of_run h
  obtain ⟨parts, tries, rfl, hparts, htries⟩ := of_leads_processBlock_done hleads
  obtain ⟨s₁, hfirst, hrest⟩ := hplays.split
  obtain ⟨visits, htour⟩ := Tour.of_parts hparts hfirst
  have hnone : counted tries = [] :=
    counted_of_no_count fun t ht => by simp [op_of_refusals htries t ht]
  refine ⟨visits, s₁, htour, ?_⟩
  rw [hcounts.stats_of_plays hrest, counted_append, hnone]
  rfl

/-! ## Runs -/

/-- Completed calls of one relay that process blocks, one after the other. The
world may move between two of them, but nobody else counts. -/
inductive Processed (relay : Relay) (links : RelayLinks σ) (stats : σ → RelayStats) :
    List RawBlock → σ → σ → Prop where
  | none (s : σ) : Processed relay links stats [] s s
  | call {b : RawBlock} {blocks : List RawBlock} {patience left : Nat} {s s₁ s₂ s' : σ}
      (hmeanwhile : stats s₁ = stats s)
      (hrun : (relay.processBlock b).run links.perform patience s₁ = ((.done (), left), s₂))
      (more : Processed relay links stats blocks s₂ s') :
      Processed relay links stats (b :: blocks) s s'

/-- The same calls, with the visits that each of them made before it stored its
block. -/
inductive Toured (relay : Relay) (links : RelayLinks σ) (stats : σ → RelayStats) :
    List RawBlock → σ → List (List (Visit σ)) → σ → Prop where
  | none (s : σ) : Toured relay links stats [] s [] s
  | call {b : RawBlock} {blocks : List RawBlock} {patience left : Nat} {s s₁ m s₂ s' : σ}
      {visits : List (Visit σ)} {calls : List (List (Visit σ))} (hmeanwhile : stats s₁ = stats s)
      (hrun : (relay.processBlock b).run links.perform patience s₁ = ((.done (), left), s₂))
      (htour : Tour relay links b b.envelopes s₁ visits m)
      (hstored : stats s₂ = (stats m).count .blocksProcessed)
      (more : Toured relay links stats blocks s₂ calls s') :
      Toured relay links stats (b :: blocks) s (visits :: calls) s'

theorem toured_of_processed {relay : Relay} {links : RelayLinks σ} {stats : σ → RelayStats}
    (hcounts : links.Counts stats) {blocks : List RawBlock} {s s' : σ}
    (h : Processed relay links stats blocks s s') :
    ∃ calls, Toured relay links stats blocks s calls s' := by
  induction h with
  | none s => exact ⟨[], .none s⟩
  | call hmeanwhile hrun _ ih =>
    obtain ⟨calls, hcalls⟩ := ih
    obtain ⟨visits, m, htour, hstored⟩ := tour_of_run hcounts hrun
    exact ⟨visits :: calls, .call hmeanwhile hrun htour hstored hcalls⟩

/-- The counters that calls moved, by the visits that each of them made. -/
def countersOf (calls : List (List (Visit σ))) : List Counter :=
  calls.flatMap fun visits => visits.filterMap Visit.counter ++ [.blocksProcessed]

/-- How many visits of some calls moved a counter. -/
def moved (calls : List (List (Visit σ))) (c : Counter) : Nat :=
  calls.flatten.countP (Visit.moves c)

theorem countersOf_cons (visits : List (Visit σ)) (calls : List (List (Visit σ))) :
    countersOf (visits :: calls)
      = visits.filterMap Visit.counter ++ .blocksProcessed :: countersOf calls :=
  List.append_assoc _ [Counter.blocksProcessed] _

theorem moved_cons (visits : List (Visit σ)) (calls : List (List (Visit σ))) (c : Counter) :
    moved (visits :: calls) c = visits.countP (Visit.moves c) + moved calls c := by
  rw [moved, List.flatten_cons, List.countP_append]
  rfl

theorem count_countersOf (calls : List (List (Visit σ))) (c : Counter) :
    (countersOf calls).count c
      = moved calls c + if .blocksProcessed = c then calls.length else 0 := by
  induction calls with
  | nil => simp [countersOf, moved]
  | cons visits calls ih =>
    have hvisits : (visits.filterMap Visit.counter).count c = visits.countP (Visit.moves c) :=
      List.count_filterMap
    rw [countersOf_cons, List.count_append, List.count_cons, hvisits, ih, moved_cons]
    by_cases hc : Counter.blocksProcessed = c
    · simp only [hc, beq_self_eq_true, if_true, List.length_cons]
      omega
    · simp only [hc, beq_iff_eq, if_false]
      omega

namespace Toured

variable {relay : Relay} {links : RelayLinks σ} {stats : σ → RelayStats} {blocks : List RawBlock}
  {s s' : σ} {calls : List (List (Visit σ))} (h : Toured relay links stats blocks s calls s')
include h

theorem length_eq : calls.length = blocks.length := by
  induction h with
  | none s => rfl
  | call _ _ _ _ _ ih => rw [List.length_cons, List.length_cons, ih]

theorem tour_of_mem {visits : List (Visit σ)} (hvisits : visits ∈ calls) :
    ∃ b s s₁, Tour relay links b b.envelopes s visits s₁ := by
  induction h with
  | none s => cases hvisits
  | call _ _ htour _ _ ih =>
    rcases List.mem_cons.1 hvisits with rfl | hvisits
    · exact ⟨_, _, _, htour⟩
    · exact ih hvisits

theorem made_of_mem {visits : List (Visit σ)} (hvisits : visits ∈ calls) {v : Visit σ}
    (hv : v ∈ visits) : v.Made relay links := by
  obtain ⟨b, s, s₁, htour⟩ := h.tour_of_mem hvisits
  exact (htour.made v hv).2

theorem moved_blocksProcessed : moved calls .blocksProcessed = 0 := by
  refine List.countP_eq_zero.2 fun v hv hmoves => ?_
  obtain ⟨visits, hvisits, hv⟩ := List.mem_flatten.1 hv
  exact (h.made_of_mem hvisits hv).verdict.ne_blocksProcessed (beq_iff_eq.1 hmoves)

/-- Taken together, the visits that counted are to the transactions that are not
passed over. -/
theorem moved_total :
    moved calls .requestsRelayed + moved calls .duplicatesSkipped + moved calls .dispatchFailures
        + moved calls .malformedRequests
      = (blocks.flatMap fun b => b.envelopes.filter b.asks).length := by
  induction h with
  | none s => rfl
  | call _ _ htour _ _ ih =>
    rw [List.flatMap_cons, List.length_append, ← List.countP_eq_length_filter, ← htour.total, ← ih]
    simp only [moved_cons]
    omega

/-- The counts are what the visits and the calls counted. -/
theorem stats_eq (hcounts : links.Counts stats) :
    stats s' = (countersOf calls).foldl RelayStats.count (stats s) := by
  induction h with
  | none s => rfl
  | call hmeanwhile _ htour hstored _ ih =>
    rw [ih, hstored, htour.stats hcounts, hmeanwhile, countersOf_cons, List.foldl_append,
      List.foldl_cons]

end Toured

/-- What the counters of a relay stand for after completed calls. -/
structure Accounts (relay : Relay) (links : RelayLinks σ) (stats : σ → RelayStats)
    (blocks : List RawBlock) (s : σ) (calls : List (List (Visit σ))) (s' : σ) : Prop where
  /-- Each call visits the transactions of its block, one after the other. -/
  toured : Toured relay links stats blocks s calls s'
  /-- A visit moves the counter that its verdict says, and no other. -/
  verdicts {visits : List (Visit σ)} {v : Visit σ} : visits ∈ calls → v ∈ visits →
    v.Verdict relay v.counter ∧
      stats v.after = v.counter.elim (stats v.before) (stats v.before).count
  /-- With a faithful store, a request is a duplicate if it has a record when it
  is visited; so it is if an earlier visit of the same call has relayed it. -/
  honest {entries : σ → ByteMap} : links.Faithful entries → links.chain = relay.chain →
    ∀ {visits : List (Visit σ)}, visits ∈ calls → (∀ v ∈ visits, v.Honest relay entries) ∧
      visits.Pairwise fun v w => relay.Repeats v w → w.counter = some .duplicatesSkipped
  blocksProcessed : blocks.length < UInt64.size → (stats s').blocksProcessed.toNat = blocks.length
  /-- The other counters say how many visits moved them. -/
  tally {c : Counter} : c ≠ .blocksProcessed → moved calls c < UInt64.size →
    ((stats s').tally c).toNat = moved calls c
  /-- Together they say how many transactions were not passed over. -/
  total : (∀ c, moved calls c < UInt64.size) →
    (stats s').requestsRelayed.toNat + (stats s').duplicatesSkipped.toNat
        + (stats s').dispatchFailures.toNat + (stats s').malformedRequests.toNat
      = (blocks.flatMap fun b => b.envelopes.filter b.asks).length

/-- Whatever a store, a ledger and other hubs do: the counters of a relay account
for the blocks it has processed, and for each of their transactions once. -/
theorem counters_account_for_transactions {relay : Relay} {links : RelayLinks σ}
    {stats : σ → RelayStats} (hcounts : links.Counts stats) {blocks : List RawBlock} {s s' : σ}
    (hrun : Processed relay links stats blocks s s') (hstart : stats s = {}) :
    ∃ calls, Accounts relay links stats blocks s calls s' := by
  obtain ⟨calls, htoured⟩ := toured_of_processed hcounts hrun
  have hexact : ∀ {c}, (countersOf calls).count c < UInt64.size →
      ((stats s').tally c).toNat = (countersOf calls).count c := fun {c} hbound => by
    have hzero : (RelayStats.tally {} c).toNat = 0 := by cases c <;> rfl
    rw [htoured.stats_eq hcounts, hstart, RelayStats.toNat_tally_foldl (by omega), hzero,
      Nat.zero_add]
  have htally : ∀ {c}, c ≠ .blocksProcessed → moved calls c < UInt64.size →
      ((stats s').tally c).toNat = moved calls c := fun {c} hc hbound => by
    have hcount : (countersOf calls).count c = moved calls c := by
      rw [count_countersOf, if_neg (Ne.symm hc), Nat.add_zero]
    rw [hexact (hcount ▸ hbound), hcount]
  refine ⟨calls, htoured, ?_, ?_, ?_, htally, ?_⟩
  · intro visits v hvisits hv
    have hmade := htoured.made_of_mem hvisits hv
    exact ⟨hmade.verdict, hmade.stats hcounts⟩
  · intro entries hlinks hchain visits hvisits
    refine ⟨fun v hv => (htoured.made_of_mem hvisits hv).honest hlinks hchain, ?_⟩
    obtain ⟨b, s, s₁, htour⟩ := htoured.tour_of_mem hvisits
    exact htour.again hlinks hchain
  · intro hbound
    have hcount : (countersOf calls).count .blocksProcessed = blocks.length := by
      rw [count_countersOf, htoured.moved_blocksProcessed, if_pos rfl, Nat.zero_add,
        htoured.length_eq]
    have hblocks := hexact (hcount ▸ hbound)
    rw [hcount] at hblocks
    exact hblocks
  · intro hbound
    rw [← htoured.moved_total]
    have hone : ∀ c, c ≠ .blocksProcessed → ((stats s').tally c).toNat = moved calls c :=
      fun c hc => htally hc (hbound c)
    rw [← hone .requestsRelayed (by simp), ← hone .duplicatesSkipped (by simp),
      ← hone .dispatchFailures (by simp), ← hone .malformedRequests (by simp)]
    rfl

end Relay

/-! ### One request, four times

A block that holds the transaction of the bench twice is processed, and then
once more. -/

namespace Bench

/-- The links at the bench, which count beside it. -/
def countedLinks : RelayLinks (Bench × RelayStats) where
  chain := chain
  store := .ofBackend chain (ByteMap.backend.within ⟨fun s => s.1.1, fun m s => ((m, s.1.2), s.2)⟩)
  ledger := MemoryLedger.ledger.within ⟨fun s => s.1.2, fun l s => ((s.1.1, l), s.2)⟩
  dispatch _ := Action.ofExcept (.ok response)
  count counter s := ((), s.1, s.2.count counter)

theorem countedLinks_counts : countedLinks.Counts Prod.snd where
  store := BlockStore.ofBackend_spares (Backend.within_spares _ _ fun _ _ => rfl) chain
  query _ _ := rfl
  invoke _ _ := rfl
  dispatch _ _ := rfl
  count _ _ := rfl

theorem countedLinks_faithful : countedLinks.Faithful fun s => s.1.1 where
  store := BlockStore.ofBackend_faithful (ByteMap.backend_faithful.within _ fun _ _ => rfl) chain
  query _ _ := rfl
  invoke _ _ := rfl
  dispatch _ _ := rfl
  count _ _ := rfl

/-- The block of the bench with its transaction twice. -/
def twice : RawBlock :=
  { block with envelopes := [envelope, envelope] }

/-- The bench and the counts after that block has been processed. -/
def processedTwice (s : Bench × RelayStats) : Bench × RelayStats :=
  ((relay.processBlock twice).run countedLinks.perform 0 s).2

theorem twice_processed {s : Bench × RelayStats}
    (h : ((relay.processBlock twice).run countedLinks.perform 0 s).1.1.value? = some ())
    {blocks : List RawBlock} {s' : Bench × RelayStats}
    (more : Relay.Processed relay countedLinks Prod.snd blocks (processedTwice s) s') :
    Relay.Processed relay countedLinks Prod.snd (twice :: blocks) s s' := by
  obtain ⟨left, hrun⟩ := run_of_value? h
  exact .call rfl hrun more

end Bench

open Bench in
theorem Relay.repeated_request_is_accounted_for :
    countedLinks.Counts Prod.snd ∧ countedLinks.Faithful (fun s => s.1.1) ∧
      ∃ s, Processed Bench.relay countedLinks Prod.snd [twice, twice] (Bench.start, {}) s ∧
        (∃ calls, Accounts Bench.relay countedLinks Prod.snd [twice, twice] (Bench.start, {})
          calls s) ∧
        s.2 = { blocksProcessed := 2, requestsRelayed := 1, duplicatesSkipped := 3 } := by
  have hruns : Processed Bench.relay countedLinks Prod.snd [twice, twice] (Bench.start, {})
      (processedTwice (processedTwice (Bench.start, {}))) :=
    twice_processed (by decide +kernel) (twice_processed (by decide +kernel) (.none _))
  exact ⟨countedLinks_counts, countedLinks_faithful, _, hruns,
    counters_account_for_transactions countedLinks_counts hruns rfl, by decide +kernel⟩

end RelayHub
