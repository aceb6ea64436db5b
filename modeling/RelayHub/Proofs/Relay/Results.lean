/-
What becomes of the result of an answered request.

A request is recorded before its result is, so a loop that is stopped between
the two leaves a record whose result no later loop makes up for: the record is
what keeps them from looking at the request again. The theorems below say that
this window is the only one. Behind every written record stand the answer that
went before it and the calls it asks for, and either these are carried out next,
all of them, or the loop did nothing more than try them until it was stopped.
-/
import RelayHub.Proofs.Relay.History
import RelayHub.Proofs.Relay.Links

set_option autoImplicit false

namespace RelayHub

open Script Deed

namespace Relay

variable {relay : Relay}

/-! ## Calls that follow an answer -/

/-- A journal in which the calls for an answer are carried out first. -/
def Applied (relay : Relay) (q : CrossChainRequest) (r : HubResponse) (past : List Deed) : Prop :=
  relay.callsFor q r <+: carriedOut past

/-- A journal of nothing but tries of the calls for an answer, one call after the other, of
which some first ones are carried out. -/
def CutShort (relay : Relay) (q : CrossChainRequest) (r : HubResponse) (past : List Deed) : Prop :=
  TriedInOrder (relay.callsFor q r) past ∧ carriedOut past <+: relay.callsFor q r

/-- An answered request is over once its calls are carried out. -/
theorem applied_or_cut_of_leads {q : CrossChainRequest} {r : HubResponse} {counter : Counter}
    {past : List Deed} {rest : RelayScript Unit}
    (h : Leads ((relay.applyResult q r).andThen fun _ => count counter) past rest) :
    relay.Applied q r past ∨ rest ≠ .done () ∧ relay.CutShort q r past := by
  -- Until the count, nothing but the calls is tried.
  rcases of_leads_andThen h with ⟨a, ha, hopen, rfl⟩ | ⟨_, before, after, rfl, hbefore, hafter⟩
  · obtain ⟨-, hprefix, -⟩ := of_leads_applyResult ha
    exact .inr ⟨andThen_ne_done hopen, triedInOrder_of_applyResult ha, hprefix⟩
  · obtain ⟨-, -, hall⟩ := of_leads_applyResult hbefore
    refine .inl ?_
    rw [Applied, carriedOut_append, hall rfl]
    exact List.prefix_append _ _

/-! ## Journals without records -/

/-- A journal in which no record is written. -/
def RecordFree (past : List Deed) : Prop :=
  ∀ t ∈ past, ∀ record wrote, t ≠ ⟨.recordSeen record, .ok wrote⟩

@[simp] theorem recordFree_nil : RecordFree [] := by
  simp [RecordFree]

@[simp] theorem recordFree_append {past past' : List Deed} :
    RecordFree (past ++ past') ↔ RecordFree past ∧ RecordFree past' :=
  List.forall_mem_append

@[simp] theorem recordFree_cons {t : Deed} {past : List Deed} :
    RecordFree (t :: past) ↔ (∀ record wrote, t ≠ ⟨.recordSeen record, .ok wrote⟩) ∧
      RecordFree past :=
  List.forall_mem_cons

/-- Operations of other kinds write no record. -/
theorem recordFree_of_op {past : List Deed} (h : ∀ t ∈ past, ∀ record, t.op ≠ .recordSeen record) :
    RecordFree past :=
  fun t ht record _ hdeed => h t ht record (congrArg Tried.op hdeed)

theorem recordFree_of_refusals {α : Type} {op : RelayOp} {accept : op.Answer → Option α}
    {tries : List Deed} (h : Refusals op accept tries) (hop : ∀ record, op ≠ .recordSeen record) :
    RecordFree tries :=
  recordFree_of_op fun t ht record => op_of_refusals h t ht ▸ hop record

/-- Neither do records that fail. -/
theorem recordFree_of_refused {record : DedupRecord} {tries : List Deed}
    (h : Refusals (.recordSeen record) succeeded tries) : RecordFree tries := by
  rintro t ht record' wrote rfl
  obtain ⟨answer, hdeed, hfail⟩ := h _ ht
  cases hdeed
  cases hfail

theorem recordFree_of_count {counter : Counter} {past : List Deed} {rest : RelayScript Unit}
    (h : Leads (count counter) past rest) : RecordFree past := by
  rcases of_leads_count h with ⟨rfl, -⟩ | ⟨rfl, -⟩ <;> simp

theorem recordFree_of_applyResult {q : CrossChainRequest} {r : HubResponse} {past : List Deed}
    {rest : RelayScript Unit} (h : Leads (relay.applyResult q r) past rest) : RecordFree past := by
  refine recordFree_of_op fun t ht record hop => ?_
  obtain ⟨call, -, hcall⟩ := (of_leads_applyResult h).1 t ht
  simp [hcall] at hop

theorem recordFree_of_applying {q : CrossChainRequest} {r : HubResponse} {counter : Counter}
    {past : List Deed} {rest : RelayScript Unit}
    (h : Leads ((relay.applyResult q r).andThen fun _ => count counter) past rest) :
    RecordFree past := by
  rcases of_leads_andThen h with ⟨a, ha, -, -⟩ | ⟨_, before, after, rfl, hbefore, hafter⟩
  · exact recordFree_of_applyResult ha
  · exact recordFree_append.2 ⟨recordFree_of_applyResult hbefore, recordFree_of_count hafter⟩

/-! ## Records and what stands behind them -/

/-- A journal that ends with an answer to a request and tries to record it. -/
def EndsAnswered (q : CrossChainRequest) (r : HubResponse) (pre : List Deed) : Prop :=
  ∃ earlier writes, pre = earlier ++ ⟨.dispatch q, .ok r⟩ :: writes ∧
    ∀ t ∈ writes, t.op = .recordSeen (recordOf q)

/-- Behind every record that a journal writes stands a request from a given
source that was answered just before, and the calls for the answer follow; if
the journal may be cut off, they may be cut short. -/
def Honoured (relay : Relay) (source : List Deed → CrossChainRequest → Prop) (cut : Prop)
    (past : List Deed) : Prop :=
  ∀ pre record wrote post, past = pre ++ ⟨.recordSeen record, .ok wrote⟩ :: post →
    ∃ q r, source pre q ∧ record = recordOf q ∧ EndsAnswered q r pre ∧
      (relay.Applied q r post ∨ cut ∧ relay.CutShort q r post)

variable {source source' source'' : List Deed → CrossChainRequest → Prop} {cut cut' : Prop}

theorem honoured_of_recordFree {past : List Deed} (h : RecordFree past) :
    relay.Honoured source cut past := by
  rintro pre record wrote post rfl
  exact absurd rfl (h _ (by simp) record wrote)

theorem Honoured.weaken {past : List Deed} (h : relay.Honoured source cut past)
    (hsource : ∀ pre q, source pre q → source' pre q) (hcut : cut → cut') :
    relay.Honoured source' cut' past := by
  intro pre record wrote post hpast
  obtain ⟨q, r, hq, hrecord, hanswer, hcalls⟩ := h pre record wrote post hpast
  exact ⟨q, r, hsource _ _ hq, hrecord, hanswer, hcalls.imp_right fun hc => ⟨hcut hc.1, hc.2⟩⟩

/-- Behind a journal that is not cut off there may be another. -/
theorem Honoured.append {past past' : List Deed} (h : relay.Honoured source False past)
    (h' : relay.Honoured source' cut past') (hsource : ∀ pre q, source pre q → source'' pre q)
    (hsource' : ∀ pre q, source' pre q → source'' (past ++ pre) q) :
    relay.Honoured source'' cut (past ++ past') := by
  intro pre record wrote post hsplit
  -- A record of the first journal was honoured there; what comes behind only adds
  -- to it.
  rcases append_eq_split hsplit with ⟨mid, rfl, rfl⟩ | ⟨pre', rfl, hpast'⟩
  · obtain ⟨q, r, hq, hrecord, hanswer, happlied | ⟨⟨⟩, -⟩⟩ := h pre record wrote mid rfl
    refine ⟨q, r, hsource _ _ hq, hrecord, hanswer, .inl ?_⟩
    rw [Applied, carriedOut_append]
    exact happlied.trans (List.prefix_append _ _)
  · obtain ⟨q, r, hq, hrecord, hanswer, hcalls⟩ := h' pre' record wrote post hpast'
    obtain ⟨earlier, writes, rfl, hwrites⟩ := hanswer
    exact ⟨q, r, hsource' _ _ hq, hrecord, ⟨past ++ earlier, writes, by simp, hwrites⟩, hcalls⟩

/-- One record is written in the course of a request, at most, and the answer
to the request stands before it. -/
theorem honoured_of_course {q : CrossChainRequest} {past : List Deed} {rest : RelayScript Unit}
    (h : Course relay q past rest) :
    relay.Honoured (fun _ q' => q' = q) (rest ≠ .done ()) past := by
  have hlook : ∀ {looks}, Refusals (.hasSeen q.found.txHash) succeeded looks → RecordFree looks :=
    fun h => recordFree_of_refusals h (by simp)
  have htry : ∀ {tries}, Refusals (.dispatch q) Accept.settled tries → RecordFree tries :=
    fun h => recordFree_of_refusals h (by simp)
  cases h with
  | foreign _ hafter => exact honoured_of_recordFree (recordFree_of_count hafter)
  | looking _ hlooks _ => exact honoured_of_recordFree (hlook hlooks)
  | duplicate _ hlooks hafter =>
    refine honoured_of_recordFree ?_
    simp [hlook hlooks, recordFree_of_count hafter]
  | dispatching _ hlooks htries _ =>
    refine honoured_of_recordFree ?_
    simp [hlook hlooks, htry htries]
  | refused _ hlooks htries _ hafter =>
    refine honoured_of_recordFree ?_
    simp [hlook hlooks, htry htries, recordFree_of_count hafter]
  | recording _ hlooks htries hwrites _ =>
    refine honoured_of_recordFree ?_
    simp [hlook hlooks, htry htries, recordFree_of_refused hwrites]
  | @recorded looks tries writes after r wrote _ _ hlooks htries hwrites hafter =>
    -- Nothing before this record and nothing behind it is a record, so it is the one.
    intro pre record wrote' post hsplit
    have hbefore : RecordFree (looks ++ ⟨.hasSeen q.found.txHash, .ok false⟩ ::
        (tries ++ ⟨.dispatch q, .ok r⟩ :: writes)) := by
      simp [hlook hlooks, htry htries, recordFree_of_refused hwrites]
    have hsame : (looks ++ ⟨.hasSeen q.found.txHash, .ok false⟩ ::
        (tries ++ ⟨.dispatch q, .ok r⟩ :: writes)) ++
        (⟨.recordSeen (recordOf q), .ok wrote⟩ : Deed) :: after
        = pre ++ ⟨.recordSeen record, .ok wrote'⟩ :: post := by
      simpa using hsplit
    obtain ⟨rfl, hdeed, rfl⟩ := (List.append_cons_inj_of_notMem
      (fun ht => hbefore _ ht record wrote' rfl)
      (fun ht => recordFree_of_applying hafter _ ht record wrote' rfl)).1 hsame
    cases hdeed
    have hanswered : EndsAnswered q r (looks ++ ⟨.hasSeen q.found.txHash, .ok false⟩ ::
        (tries ++ ⟨.dispatch q, .ok r⟩ :: writes)) :=
      ⟨looks ++ ⟨.hasSeen q.found.txHash, .ok false⟩ :: tries, writes, by simp,
        op_of_refusals hwrites⟩
    exact ⟨q, r, rfl, rfl, hanswered, applied_or_cut_of_leads hafter⟩

/-! ## Blocks and lives -/

theorem honoured_of_passage {b : RawBlock} {e : Envelope} (he : e ∈ b.envelopes)
    {past : List Deed} {rest : RelayScript Unit} (h : Passage relay b e past rest) :
    relay.Honoured (fun _ => HoldsRequest b) (rest ≠ .done ()) past := by
  cases h with
  | malformed _ hpast => exact honoured_of_recordFree (recordFree_of_count hpast)
  | other _ => exact honoured_of_recordFree recordFree_nil
  | request hrequest hcourse =>
    exact (honoured_of_course hcourse).weaken (by rintro _ _ rfl; exact ⟨e, he, hrequest⟩) id

theorem honoured_of_passages {b : RawBlock} {envelopes : List Envelope} {parts : List (List Deed)}
    (henvelopes : ∀ e ∈ envelopes, e ∈ b.envelopes)
    (h : List.Forall₂ (fun e part => Leads (relay.relayEnvelope b e) part (.done ()))
      envelopes parts) :
    relay.Honoured (fun _ => HoldsRequest b) False parts.flatten := by
  induction h with
  | nil => exact honoured_of_recordFree recordFree_nil
  | @cons e part envelopes parts hpart _ ih =>
    obtain ⟨he, henvelopes⟩ := List.forall_mem_cons.1 henvelopes
    have hfirst := honoured_of_passage he (passage_of_leads hpart)
    exact (hfirst.weaken (fun _ _ => id) fun h => h rfl).append (ih henvelopes)
      (fun _ _ => id) fun _ _ => id

/-- The records written while a block is processed. -/
theorem honoured_of_processBlock {b : RawBlock} {past : List Deed} {rest : RelayScript Unit}
    (h : Leads (relay.processBlock b) past rest) :
    relay.Honoured (fun _ => HoldsRequest b) (rest ≠ .done ()) past := by
  rcases of_leads_processBlock h with ⟨a, ha, hopen, rfl⟩ | ⟨before, after, rfl, hbefore, hafter⟩
  -- Either a transaction is under way, behind finished ones, or only the block is left.
  · obtain ⟨finished, parts, hparts, ⟨-, rfl, rfl⟩ | ⟨e, more, last, a, henv, rfl, hlast, -, rfl⟩⟩ :=
      of_leads_each ha
    · cases hopen
    · have hfirst : ∀ e ∈ finished, e ∈ b.envelopes := fun e he =>
        henv ▸ List.mem_append_left _ he
      have he : e ∈ b.envelopes := henv ▸ by simp
      refine (honoured_of_passages hfirst hparts).append
        ((honoured_of_passage he (passage_of_leads hlast)).weaken (fun _ _ => id)
          fun _ => andThen_ne_done hopen) (fun _ _ => id) fun _ _ => id
  · obtain ⟨parts, hparts, rfl⟩ := of_leads_each_done hbefore
    have hfree : RecordFree after := by
      rcases of_leads_persist hafter with ⟨-, htries⟩ | ⟨tries, after, rfl, htries, hafter⟩
      · exact recordFree_of_refusals htries (by simp)
      · simp [recordFree_of_refusals htries, recordFree_of_count hafter]
    have hstored : relay.Honoured (fun _ => HoldsRequest b) (rest ≠ .done ()) after :=
      honoured_of_recordFree hfree
    exact (honoured_of_passages (fun _ => id) hparts).append hstored (fun _ _ => id) fun _ _ => id

/-- A request of a block that was read before. -/
def ReadBefore (pre : List Deed) (q : CrossChainRequest) : Prop :=
  ∃ b, ⟨.query b.number, .ok b⟩ ∈ pre ∧ HoldsRequest b q

/-- What a loop still has to fetch, with what its journal says of a block that
is there. -/
def FetchOf (past : List Deed) (work : RelayScript RawBlock) : Prop :=
  work = Cursor.new.next ∨ (∃ n, work = Cursor.query n) ∨
    ∃ b, work = .done b ∧ ⟨.query b.number, .ok b⟩ ∈ past

/-- What is kept by the turns of a loop: everything behind it is honoured, but
for the block it is processing, which has its own journal. -/
def Upright (relay : Relay) (past : List Deed) : LoopState → Prop
  | .looking _ | .stopped => relay.Honoured ReadBefore False past
  | .fetching work => relay.Honoured ReadBefore False past ∧ FetchOf past work
  | .processing _ work => ∃ before b part, past = before ++ part ∧
      relay.Honoured ReadBefore False before ∧ ⟨.query b.number, .ok b⟩ ∈ before ∧
      Leads (relay.processBlock b) part work

theorem honoured_snoc {past : List Deed} (h : relay.Honoured ReadBefore False past) {t : Deed}
    (ht : ∀ record, t.op ≠ .recordSeen record) : relay.Honoured ReadBefore False (past ++ [t]) := by
  have hlast : relay.Honoured (fun _ _ => False) False [t] :=
    honoured_of_recordFree (recordFree_of_op (by simpa using ht))
  exact h.append hlast (fun _ _ => id) fun _ _ => False.elim

/-- A block's journal behind what went before. -/
theorem honoured_of_processing {before part : List Deed} {b : RawBlock} {work : RelayScript Unit}
    (hbefore : relay.Honoured ReadBefore False before) (hread : ⟨.query b.number, .ok b⟩ ∈ before)
    (hwork : Leads (relay.processBlock b) part work) :
    relay.Honoured ReadBefore (work ≠ .done ()) (before ++ part) :=
  hbefore.append (honoured_of_processBlock hwork) (fun _ _ => id) fun _ _ hq =>
    ⟨b, List.mem_append_left _ hread, hq⟩

theorem fetchOf_next (past : List Deed) (cursor : Cursor) : FetchOf past cursor.next := by
  obtain ⟨_ | number⟩ := cursor
  · exact .inl rfl
  · exact .inr (.inl ⟨number + 1, rfl⟩)

theorem upright_of_fetches {past : List Deed} {t : Deed} {work work' : RelayScript RawBlock}
    (h : relay.Honoured ReadBefore False past) (hwork : FetchOf past work)
    (htries : Tries work t work') :
    relay.Honoured ReadBefore False (past ++ [t]) ∧ FetchOf (past ++ [t]) work' := by
  rcases hwork with rfl | ⟨n, rfl⟩ | ⟨b, rfl, -⟩
  · rcases Cursor.of_tries_new htries with ⟨hop, rfl⟩ | ⟨n, rfl, rfl⟩
    · exact ⟨honoured_snoc h (by simp [hop]), .inl rfl⟩
    · exact ⟨honoured_snoc h (by simp), .inr (.inl ⟨_, rfl⟩)⟩
  · rcases Cursor.of_tries_query htries with ⟨hop, rfl⟩ | ⟨b, rfl, rfl, rfl⟩
    · exact ⟨honoured_snoc h (by simp [hop]), .inr (.inl ⟨n, rfl⟩)⟩
    · exact ⟨honoured_snoc h (by simp), .inr (.inr ⟨b, rfl, by simp⟩)⟩
  · cases htries

theorem upright_of_lived {past : List Deed} {loop : LoopState} (h : Lived relay past loop) :
    relay.Upright past loop := by
  induction h with
  | begun => exact honoured_of_recordFree recordFree_nil
  | moved _ next ih =>
    cases next with
    | rests => simpa using ih
    | looks cursor => exact ⟨by simpa [Upright] using ih, fetchOf_next _ cursor⟩
    | stopsLooking => simpa [Upright] using ih
    | stopsFetching => simpa [Upright] using ih.1
    | fetches htries => exact upright_of_fetches ih.1 ih.2 htries
    -- A block that is taken was read, and its own journal starts empty.
    | takes b =>
      obtain ⟨hpast, h | ⟨n, h⟩ | ⟨b', h, hread⟩⟩ := ih
      · cases h
      · cases h
      · cases h
        exact ⟨_, b, [], by simp, hpast, hread, .nil _⟩
    | works htries =>
      obtain ⟨before, b, part, rfl, hbefore, hread, hwork⟩ := ih
      exact ⟨before, b, _, by simp, hbefore, hread, hwork.snoc htries⟩
    -- A block that is over was not cut off.
    | finishes =>
      obtain ⟨before, b, part, rfl, hbefore, hread, hwork⟩ := ih
      have hpart := honoured_of_processing hbefore hread hwork
      simpa [Upright] using hpart.weaken (fun _ _ => id) fun h => h rfl

/-- Every record in the journal of a loop is honoured, unless the loop was cut
off. -/
theorem honoured_of_lived {past : List Deed} {loop : LoopState} (h : Lived relay past loop) :
    relay.Honoured ReadBefore True past := by
  have hup := upright_of_lived h
  cases loop with
  | looking cursor => exact Honoured.weaken hup (fun _ _ => id) False.elim
  | fetching work => exact hup.1.weaken (fun _ _ => id) False.elim
  | processing cursor work =>
    obtain ⟨before, b, part, rfl, hbefore, hread, hwork⟩ := hup
    exact (honoured_of_processing hbefore hread hwork).weaken (fun _ _ => id) fun _ => trivial
  | stopped => exact Honoured.weaken hup (fun _ _ => id) False.elim

/-- Whatever happens at the site of a relay: when a loop has written the record
of a request, it had got the answer just before, and the next things it does
are the calls that the answer asks for, until all of them are carried out; if
they are not, the loop did nothing else before it was stopped. -/
theorem result_applied_or_cut_short {σ : Type} (relay : Relay)
    (perform : (op : RelayOp) → StateM σ op.Answer) (world : σ) (history : List (Happening σ))
    {life pre post : List Deed} {record : DedupRecord} {wrote : Bool}
    (hlife : life ∈ (Site.play relay perform history (.opened world)).lives)
    (hrecord : life = pre ++ ⟨.recordSeen record, .ok wrote⟩ :: post) :
    ∃ b q r, ⟨.query b.number, .ok b⟩ ∈ pre ∧ HoldsRequest b q ∧ record = recordOf q ∧
      EndsAnswered q r pre ∧ (relay.Applied q r post ∨ relay.CutShort q r post) := by
  obtain ⟨loop, hlived⟩ := Site.lived_of_mem_lives hlife
  obtain ⟨q, r, ⟨b, hread, hb⟩, hq, hanswer, hcalls⟩ :=
    honoured_of_lived hlived pre record wrote post hrecord
  exact ⟨b, q, r, hread, hb, hq, hanswer, hcalls.imp_right And.right⟩

/-! ### The window

A loop on a bench is stopped after it has written the record of a request, and
before it has made a call. The next loop finds the record, leaves the request
alone and stores the block. -/

/-- A loop that is stopped in the window, and the loop after it. -/
def windowHistory : List (Happening Bench) :=
  List.replicate 7 (.turn (.holding false) .work) ++
    .restart :: List.replicate 9 (.turn (.holding false) .work)

/-- The bench after both. -/
def windowSite : Site Bench :=
  Site.play ⟨Bench.chain, "router"⟩ Bench.perform windowHistory (.opened Bench.start)

/-- What the first of the two did before it wrote the record. -/
def windowStart : List Deed :=
  [⟨.latest, .ok 0⟩, ⟨.query 1, .ok Bench.block⟩, ⟨.hasSeen "t1", .ok false⟩,
   ⟨.dispatch Bench.request, .ok Bench.response⟩]

theorem result_cut_short_in_window :
    ∃ b q r, ⟨.query b.number, .ok b⟩ ∈ windowStart ∧ HoldsRequest b q ∧
      recordOf Bench.request = recordOf q ∧ EndsAnswered q r windowStart ∧
      (Applied ⟨Bench.chain, "router"⟩ q r [] ∨ CutShort ⟨Bench.chain, "router"⟩ q r []) := by
  have hlife : windowStart ++ [⟨.recordSeen (recordOf Bench.request), .ok true⟩] ∈
      (Site.play ⟨Bench.chain, "router"⟩ Bench.perform windowHistory
        (.opened Bench.start)).lives := by
    decide +kernel
  exact result_applied_or_cut_short _ _ _ _ hlife rfl

/-- The block is stored and its request has the record that was written for it,
and yet no call was carried out in either life, or on the chain. -/
theorem crash_in_window_loses_result :
    (((BlockStore.inMemory Bench.chain).byNumber Bench.chain 1).perform windowSite.world.1).1
        = .ok (some (.ofRaw Bench.chain Bench.block)) ∧
      Bench.envelope.request? Bench.block = .ok (some Bench.request) ∧
      (∃ life ∈ windowSite.lives, ⟨.dispatch Bench.request, .ok Bench.response⟩ ∈ life ∧
        ⟨.recordSeen (recordOf Bench.request), .ok true⟩ ∈ life) ∧
      (∀ life ∈ windowSite.lives, carriedOut life = []) ∧
      (windowSite.world.2.chain? Bench.chain).map (fun c => (c.invocations, c.results.length))
        = some ([], 0) := by
  decide +kernel

end Relay

end RelayHub
