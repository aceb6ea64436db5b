/-
Every request is answered once, and what it asks for is done once.

A run here is a sequence of completed calls that process blocks, any blocks in
any order, by one relay after another over the same store. `Settles` says what
a stretch of such a run does to the records of the store, and what its journal
shows: which requests may be dispatched, on whose behalf contracts are called,
and which records are there afterwards. Stretches add up, so the argument is
about single requests, and their course gives the rest.
-/
import RelayHub.Proofs.Ledger.Grammar
import RelayHub.Proofs.Relay.Course
import RelayHub.Proofs.Relay.Links

set_option autoImplicit false

namespace RelayHub

open Script Deed

namespace Relay

variable {σ : Type} {relay : Relay} {m m' m'' : ByteMap} {past past' : List Deed}
  {source source' : CrossChainRequest → Prop}

/-! ## Stretches of a run -/

/-- What is done between the answer to a request and the end of its course:
its record and its calls. -/
def Follows (relay : Relay) (q : CrossChainRequest) (r : HubResponse) (t : Deed) : Prop :=
  t.op = .recordSeen (recordOf q) ∨ ∃ call ∈ relay.callsFor q r, t.op = .invoke call

/-- A journal that ends between the answer to a request and the end of its
course. -/
def WithinAnswer (relay : Relay) (q : CrossChainRequest) (r : HubResponse) (pre : List Deed) :
    Prop :=
  ∃ earlier mid, pre = earlier ++ ⟨.dispatch q, .ok r⟩ :: mid ∧ ∀ t ∈ mid, relay.Follows q r t

/-- What a stretch of a run does to the records in a store, and what its
journal shows of the requests from a source. -/
structure Settles (relay : Relay) (source : CrossChainRequest → Prop) (m m' : ByteMap)
    (past : List Deed) : Prop where
  /-- Only a request without a record is dispatched, and none after an answer. -/
  fresh {pre post : List Deed} {q : CrossChainRequest} {answer : Except HubError HubResponse} :
    past = pre ++ ⟨.dispatch q, answer⟩ :: post →
      source q ∧ seen relay.chain m q.found.txHash = false ∧
        ∀ p ∈ answers pre, p.1.found.txHash ≠ q.found.txHash
  /-- A contract is only called for an answered request, in its course. -/
  owned {pre post : List Deed} {call : Invocation} {answer : Except LedgerError ContractResponse} :
    past = pre ++ ⟨.invoke call, answer⟩ :: post →
      ∃ q r, relay.WithinAnswer q r pre ∧ call ∈ relay.callsFor q r
  /-- The calls for the answers are carried out, and no others. -/
  calls : carriedOut past = (answers past).flatMap fun p => relay.callsFor p.1 p.2
  /-- An answered request has its record. -/
  recorded {p : CrossChainRequest × HubResponse} : p ∈ answers past →
    recordAt relay.chain m' p.1.found.txHash = some (recordOf p.1).encode
  /-- No two answers are to requests with one hash. -/
  once : ((answers past).map fun p => p.1.found.txHash).Nodup
  /-- All other records are as before. -/
  kept {txHash : String} : (∀ p ∈ answers past, p.1.found.txHash ≠ txHash) →
    recordAt relay.chain m' txHash = recordAt relay.chain m txHash

theorem mem_answers {q : CrossChainRequest} {r : HubResponse} (h : (q, r) ∈ answers past) :
    ∃ pre post, past = pre ++ ⟨.dispatch q, .ok r⟩ :: post := by
  obtain ⟨t, ht, hanswer⟩ := List.mem_filterMap.1 h
  obtain ⟨pre, post, rfl⟩ := List.append_of_mem ht
  unfold answer? at hanswer
  split at hanswer
  · cases hanswer
    exact ⟨pre, post, rfl⟩
  · cases hanswer

namespace Settles

theorem weaken (h : relay.Settles source m m' past) (hsource : ∀ q, source q → source' q) :
    relay.Settles source' m m' past :=
  { h with fresh := fun hpast => ⟨hsource _ (h.fresh hpast).1, (h.fresh hpast).2⟩ }

/-- An answered request is one from the source that had no record. -/
theorem of_answered (h : relay.Settles source m m' past) {p : CrossChainRequest × HubResponse}
    (hp : p ∈ answers past) : source p.1 ∧ seen relay.chain m p.1.found.txHash = false := by
  obtain ⟨pre, post, hpast⟩ := mem_answers hp
  exact ⟨(h.fresh hpast).1, (h.fresh hpast).2.1⟩

theorem seen_of_answered (h : relay.Settles source m m' past)
    {p : CrossChainRequest × HubResponse} (hp : p ∈ answers past) :
    seen relay.chain m' p.1.found.txHash = true := by
  rw [seen_eq, h.recorded hp]
  rfl

/-- What had no record has one afterwards if it was answered, and not
otherwise. -/
theorem seen_iff (h : relay.Settles source m m' past) (txHash : String) :
    seen relay.chain m' txHash = true ↔
      seen relay.chain m txHash = true ∨ ∃ p ∈ answers past, p.1.found.txHash = txHash := by
  -- Only answers write records, and what was not answered is as before.
  by_cases hanswered : ∃ p ∈ answers past, p.1.found.txHash = txHash
  · obtain ⟨p, hp, rfl⟩ := hanswered
    exact ⟨fun _ => .inr ⟨p, hp, rfl⟩, fun _ => h.seen_of_answered hp⟩
  · rw [seen_of_recordAt_eq (h.kept fun p hp heq => hanswered ⟨p, hp, heq⟩)]
    exact ⟨.inl, fun hor => hor.resolve_right hanswered⟩

/-- Nothing happened. -/
theorem nil (source : CrossChainRequest → Prop) (m : ByteMap) : relay.Settles source m m [] where
  fresh h := by simp at h
  owned h := by simp at h
  calls := rfl
  recorded h := by simp at h
  once := List.nodup_nil
  kept _ := rfl

/-- What one stretch answers, the next one does not answer again: it has a
record by then. -/
theorem apart (h : relay.Settles source m m' past) (h' : relay.Settles source m' m'' past')
    {p p' : CrossChainRequest × HubResponse} (hp : p ∈ answers past) (hp' : p' ∈ answers past') :
    p.1.found.txHash ≠ p'.1.found.txHash := by
  intro heq
  have hunseen := (h'.of_answered hp').2
  rw [← heq, h.seen_of_answered hp] at hunseen
  cases hunseen

/-- One stretch and then another. -/
theorem append (h : relay.Settles source m m' past) (h' : relay.Settles source m' m'' past') :
    relay.Settles source m m'' (past ++ past') where
  fresh {pre post q answer} hsplit := by
    -- A request of the second stretch had no record after the first, so the first
    -- did not answer it.
    rcases append_eq_split hsplit with ⟨mid, rfl, -⟩ | ⟨pre, rfl, hpast'⟩
    · exact h.fresh rfl
    · obtain ⟨hsource, hseen, hpre⟩ := h'.fresh hpast'
      have hnew : ∀ p ∈ answers past, p.1.found.txHash ≠ q.found.txHash := fun p hp heq => by
        rw [← heq, h.seen_of_answered hp] at hseen
        cases hseen
      refine ⟨hsource, ?_, ?_⟩
      · rw [← hseen, seen_of_recordAt_eq (h.kept hnew)]
      · rw [answers_append]
        exact List.forall_mem_append.2 ⟨hnew, hpre⟩
  owned hsplit := by
    rcases append_eq_split hsplit with ⟨mid, rfl, -⟩ | ⟨pre, rfl, hpast'⟩
    · exact h.owned rfl
    · obtain ⟨q, r, ⟨earlier, mid, rfl, hmid⟩, hcall⟩ := h'.owned hpast'
      exact ⟨q, r, ⟨past ++ earlier, mid, by simp, hmid⟩, hcall⟩
  calls := by
    rw [carriedOut_append, answers_append, List.flatMap_append, h.calls, h'.calls]
  recorded {p} hp := by
    rw [answers_append] at hp
    -- The second stretch does not touch the records of the first.
    rcases List.mem_append.1 hp with hp | hp
    · rw [h'.kept fun p' hp' heq => h.apart h' hp hp' heq.symm]
      exact h.recorded hp
    · exact h'.recorded hp
  once := by
    rw [answers_append, List.map_append, List.nodup_append]
    refine ⟨h.once, h'.once, ?_⟩
    simp only [List.mem_map]
    rintro _ ⟨p, hp, rfl⟩ _ ⟨p', hp', rfl⟩
    exact h.apart h' hp hp'
  kept hother := by
    rw [answers_append] at hother
    obtain ⟨hpast, hpast'⟩ := List.forall_mem_append.1 hother
    rw [h'.kept hpast', h.kept hpast]

end Settles

/-! ## Stretches of one kind of operation -/

/-- A deed that neither asks another hub, nor calls a contract, nor writes a
record. -/
def Quiet (t : Deed) : Prop :=
  (∀ q, t.op ≠ .dispatch q) ∧ (∀ call, t.op ≠ .invoke call) ∧ ∀ record, t.op ≠ .recordSeen record

theorem quiet_of_looks {q : CrossChainRequest} {looks : List Deed}
    (h : Refusals (.hasSeen q.found.txHash) succeeded looks) : ∀ t ∈ looks, Quiet t :=
  fun t ht => by simp [Quiet, op_of_refusals h t ht]

theorem quiet_of_count {counter : Counter} {past : List Deed} {rest : RelayScript Unit}
    (h : Leads (count counter) past rest) : ∀ t ∈ past, Quiet t := by
  rcases of_leads_count h with ⟨rfl, -⟩ | ⟨rfl, -⟩ <;> simp [Quiet]

theorem answers_of_no_dispatch (h : ∀ t ∈ past, ∀ q, t.op ≠ .dispatch q) : answers past = [] := by
  refine List.filterMap_eq_nil_iff.2 fun t ht => ?_
  obtain ⟨op, answer⟩ := t
  cases op with
  | dispatch q => exact absurd rfl (h _ ht q)
  | _ => rfl

theorem carriedOut_of_no_invoke (h : ∀ t ∈ past, ∀ call, t.op ≠ .invoke call) :
    carriedOut past = [] := by
  refine List.filterMap_eq_nil_iff.2 fun t ht => ?_
  obtain ⟨op, answer⟩ := t
  cases op with
  | invoke call => exact absurd rfl (h _ ht call)
  | _ => rfl

/-- An answer to a request without a record, with its record and its calls
behind it. -/
theorem settles_of_answer {q : CrossChainRequest} {r : HubResponse} {body : List Deed}
    {counter : Counter} (hseen : seen relay.chain m q.found.txHash = false)
    (hbody : ∀ t ∈ body, relay.Follows q r t) (hcalls : carriedOut body = relay.callsFor q r)
    (hrecords : ∀ txHash, recordAt relay.chain m' txHash
      = if txHash = q.found.txHash then some (recordOf q).encode
        else recordAt relay.chain m txHash) :
    relay.Settles (fun q' => q' = q) m m'
      (⟨.dispatch q, .ok r⟩ :: (body ++ [⟨.count counter, ()⟩])) := by
  have hdispatch : ∀ t ∈ body ++ [⟨.count counter, ()⟩], ∀ q', t.op ≠ .dispatch q' := by
    intro t ht q'
    rcases List.mem_append.1 ht with ht | ht
    · rcases hbody t ht with hop | ⟨_, -, hop⟩ <;> simp [hop]
    · simp [List.mem_singleton.1 ht]
  have hanswers : answers (⟨.dispatch q, .ok r⟩ :: (body ++ [⟨.count counter, ()⟩])) = [(q, r)] :=
    congrArg ((q, r) :: ·) (answers_of_no_dispatch hdispatch)
  exact {
    fresh := fun {pre post q' answer} hpast => by
      cases pre with
      | nil =>
        cases hpast
        exact ⟨rfl, hseen, by simp⟩
      | cons t pre =>
        have htail : body ++ [⟨.count counter, ()⟩] = pre ++ ⟨.dispatch q', answer⟩ :: post :=
          (List.cons.inj hpast).2
        exact absurd rfl (hdispatch _ (by rw [htail]; exact List.mem_append_cons_self) q')
    owned := fun {pre post call answer} hpast => by
      cases pre with
      | nil => cases hpast
      | cons t pre =>
        obtain ⟨rfl, htail⟩ := List.cons.inj hpast
        -- Nothing stands behind the count, so the call is before it.
        rcases append_eq_split htail with ⟨mid, rfl, -⟩ | ⟨pre', -, hlast⟩
        · obtain ⟨hpre, hcall⟩ := List.forall_mem_append.1 hbody
          rcases (List.forall_mem_cons.1 hcall).1 with hop | ⟨_, hmem, ⟨⟩⟩
          · cases hop
          · exact ⟨q, r, ⟨[], pre, rfl, hpre⟩, hmem⟩
        · have hmem : (⟨.invoke call, answer⟩ : Deed) ∈ [⟨.count counter, ()⟩] :=
            hlast ▸ List.mem_append_cons_self
          cases List.mem_singleton.1 hmem
    calls := by
      rw [hanswers, List.flatMap_singleton, ← hcalls]
      change carriedOut (body ++ [_]) = _
      rw [carriedOut_append]
      exact List.append_nil _
    recorded := fun {p} hp => by
      rw [hanswers, List.mem_singleton] at hp
      rw [hp, hrecords, if_pos rfl]
    once := by simp [hanswers]
    kept := fun {txHash} hother => by
      rw [hrecords, if_neg]
      exact fun heq => hother (q, r) (by simp [hanswers]) heq.symm }

section Faithful

variable {links : RelayLinks σ} {entries : σ → ByteMap} {s s' : σ} {q : CrossChainRequest}
variable (hlinks : links.Faithful entries) (hchain : links.chain = relay.chain)
include hlinks hchain

/-- Without an attempt to record anything, records stay as they are. -/
theorem recordAt_of_plays (hplays : Plays links.perform s past s')
    (h : ∀ t ∈ past, ∀ record, t.op ≠ .recordSeen record) (txHash : String) :
    recordAt relay.chain (entries s') txHash = recordAt relay.chain (entries s) txHash := by
  refine hplays.keeps (fun s => recordAt relay.chain (entries s) txHash) fun t ht s _ => ?_
  rw [← hchain]
  exact hlinks.perform_recordAt (h t ht) s txHash

theorem settles_of_quiet (hplays : Plays links.perform s past s') (h : ∀ t ∈ past, Quiet t) :
    relay.Settles source (entries s) (entries s') past := by
  have hanswers : answers past = [] := answers_of_no_dispatch fun t ht => (h t ht).1
  exact {
    fresh := fun hpast => absurd rfl ((h _ (hpast ▸ List.mem_append_cons_self)).1 _)
    owned := fun hpast => absurd rfl ((h _ (hpast ▸ List.mem_append_cons_self)).2.1 _)
    calls := by rw [carriedOut_of_no_invoke fun t ht => (h t ht).2.1, hanswers]; rfl
    recorded := by simp [hanswers]
    once := by simp [hanswers]
    kept := fun _ => recordAt_of_plays hlinks hchain hplays (fun t ht => (h t ht).2.2) _ }

/-- Attempts to get an answer that get none. -/
theorem settles_of_unanswered (hplays : Plays links.perform s past s')
    (hops : ∀ t ∈ past, t.op = .dispatch q) (hnone : answers past = [])
    (hseen : seen relay.chain (entries s) q.found.txHash = false) :
    relay.Settles (fun q' => q' = q) (entries s) (entries s') past where
  fresh {pre post q' answer} hpast := by
    have hop : RelayOp.dispatch q' = .dispatch q := hops _ (hpast ▸ List.mem_append_cons_self)
    cases hop
    rw [hpast, answers_append] at hnone
    exact ⟨rfl, hseen, by simp [(List.append_eq_nil_iff.1 hnone).1]⟩
  owned {pre post call answer} hpast := by
    have hop : RelayOp.invoke call = .dispatch q := hops _ (hpast ▸ List.mem_append_cons_self)
    cases hop
  calls := by
    rw [hnone, carriedOut_of_no_invoke]
    · rfl
    · intro t ht call
      simp [hops t ht]
  recorded := by simp [hnone]
  once := by simp [hnone]
  kept _ := recordAt_of_plays hlinks hchain hplays (fun t ht => by simp [hops t ht]) _

/-- Writing the record of a request that has none. -/
theorem recordAt_of_recording {writes : List Deed} {wrote : Bool}
    (hplays : Plays links.perform s (writes ++ [⟨.recordSeen (recordOf q), .ok wrote⟩]) s')
    (hwrites : Refusals (.recordSeen (recordOf q)) succeeded writes)
    (hseen : seen relay.chain (entries s) q.found.txHash = false) (txHash : String) :
    recordAt relay.chain (entries s') txHash
      = if txHash = q.found.txHash then some (recordOf q).encode
        else recordAt relay.chain (entries s) txHash := by
  -- The tries that failed, and the one that wrote the record.
  obtain ⟨s₁, htries, hlast⟩ := hplays.split
  obtain ⟨hanswer, hend⟩ := hlast.of_cons
  cases hend
  -- A refused try leaves the entries as they are.
  have hsame : entries s₁ = entries s := by
    refine htries.keeps entries fun t ht s hs => ?_
    obtain ⟨answer, rfl, hfail⟩ := hwrites t ht
    rcases hlinks.recordSeen_entries (recordOf q) s with ⟨e, -, hkept⟩ | ⟨w, hok, -⟩
    · exact hkept
    · change _ = answer at hs
      rw [← hs, hok] at hfail
      cases hfail
  rcases hlinks.recordSeen_entries (recordOf q) s₁ with ⟨e, hfail, -⟩ | ⟨w, -, hwritten⟩
  · rw [hanswer] at hfail
    cases hfail
  · rw [hsame, hchain] at hwritten
    dsimp only
    rw [hwritten, if_neg (by rw [← Bool.not_eq_true] at hseen; exact hseen), recordAt_withRecord]
    rfl

/-- The answer to a request without a record, and everything that follows. -/
theorem settles_of_answered {r : HubResponse} {writes after : List Deed} {wrote : Bool}
    (hplays : Plays links.perform s (⟨.dispatch q, .ok r⟩ ::
      (writes ++ ⟨.recordSeen (recordOf q), .ok wrote⟩ :: after)) s')
    (hwrites : Refusals (.recordSeen (recordOf q)) succeeded writes)
    (hafter : Leads ((relay.applyResult q r).andThen fun _ => count .requestsRelayed) after
      (.done ()))
    (hseen : seen relay.chain (entries s) q.found.txHash = false) :
    relay.Settles (fun q' => q' = q) (entries s) (entries s') (⟨.dispatch q, .ok r⟩ ::
      (writes ++ ⟨.recordSeen (recordOf q), .ok wrote⟩ :: after)) := by
  -- The answer asks for the record first, and then for the calls; the count comes last.
  obtain ⟨calls, rfl, hcalls, hops⟩ := of_leads_applying_done hafter
  have hbody : ∀ t ∈ writes ++ ⟨.recordSeen (recordOf q), .ok wrote⟩ :: calls,
      relay.Follows q r t := by
    intro t ht
    simp only [List.mem_append, List.mem_cons] at ht
    rcases ht with ht | rfl | ht
    · exact .inl (op_of_refusals hwrites t ht)
    · exact .inl rfl
    · exact .inr (hops t ht)
  have hcarried : carriedOut (writes ++ ⟨.recordSeen (recordOf q), .ok wrote⟩ :: calls)
      = relay.callsFor q r := by
    have hnone : carriedOut writes = [] :=
      carriedOut_of_no_invoke fun t ht call => by simp [op_of_refusals hwrites t ht]
    rw [carriedOut_append, hnone]
    exact hcalls
  have hrecords : ∀ txHash, recordAt relay.chain (entries s') txHash
      = if txHash = q.found.txHash then some (recordOf q).encode
        else recordAt relay.chain (entries s) txHash := by
    intro txHash
    obtain ⟨-, htail⟩ := hplays.of_cons
    have hdispatched : entries (links.perform (.dispatch q) s).2 = entries s :=
      hlinks.dispatch q s
    rw [List.append_cons] at htail
    obtain ⟨s₁, hrecording, hrest⟩ := htail.split
    have hkeeps : ∀ t ∈ calls ++ [⟨.count .requestsRelayed, ()⟩], ∀ record,
        t.op ≠ .recordSeen record := by
      intro t ht record
      rcases List.mem_append.1 ht with ht | ht
      · obtain ⟨_, -, hop⟩ := hops t ht
        simp [hop]
      · simp [List.mem_singleton.1 ht]
    rw [recordAt_of_plays hlinks hchain hrest hkeeps,
      recordAt_of_recording hlinks hchain hrecording hwrites (hdispatched ▸ hseen)]
    dsimp only
    rw [hdispatched]
  simpa using settles_of_answer hseen hbody hcarried hrecords

/-- A lookup that finds no record, and what comes after it. -/
theorem settles_of_looks {looks rest : List Deed}
    (hplays : Plays links.perform s (looks ++ ⟨.hasSeen q.found.txHash, .ok false⟩ :: rest) s')
    (hlooks : Refusals (.hasSeen q.found.txHash) succeeded looks) :
    ∃ s₁, relay.Settles source (entries s) (entries s₁)
        (looks ++ [⟨.hasSeen q.found.txHash, .ok false⟩]) ∧
      Plays links.perform s₁ rest s' ∧ seen relay.chain (entries s₁) q.found.txHash = false := by
  obtain ⟨s₀, hbefore, hfrom⟩ := hplays.split
  obtain ⟨hanswer, hrest⟩ := hfrom.of_cons
  have hlooked : Plays links.perform s (looks ++ [⟨.hasSeen q.found.txHash, .ok false⟩]) _ :=
    hbefore.append (.cons hanswer (.nil _))
  have hquiet : ∀ t ∈ looks ++ [⟨.hasSeen q.found.txHash, .ok false⟩], Quiet t := by
    refine List.forall_mem_append.2 ⟨quiet_of_looks hlooks, ?_⟩
    simp [Quiet]
  refine ⟨_, settles_of_quiet hlinks hchain hlooked hquiet, hrest, ?_⟩
  have hsame : entries (links.perform (.hasSeen q.found.txHash) s₀).2 = entries s₀ :=
    hlinks.perform_keeps rfl s₀
  dsimp only
  rw [hsame, ← hchain]
  exact hlinks.hasSeen_answer hanswer

/-- Tries of asking another hub that do not settle a request without a record,
and what comes after them. -/
theorem settles_of_tries {tries rest : List Deed}
    (hplays : Plays links.perform s (tries ++ rest) s')
    (htries : Refusals (.dispatch q) Accept.settled tries)
    (hseen : seen relay.chain (entries s) q.found.txHash = false) :
    ∃ s₁, relay.Settles (fun q' => q' = q) (entries s) (entries s₁) tries ∧
      Plays links.perform s₁ rest s' ∧ seen relay.chain (entries s₁) q.found.txHash = false := by
  obtain ⟨s₁, hbefore, hrest⟩ := hplays.split
  have hsame : entries s₁ = entries s := hbefore.keeps entries fun t ht s _ => by
    rw [op_of_refusals htries t ht]
    exact hlinks.dispatch q s
  refine ⟨s₁, ?_, hrest, hsame ▸ hseen⟩
  exact settles_of_unanswered hlinks hchain hbefore (op_of_refusals htries)
    (answers_refused_dispatches htries) hseen

/-- A request that took its course is settled. -/
theorem settles_of_course (hcourse : Course relay q past (.done ()))
    (hplays : Plays links.perform s past s') :
    relay.Settles (fun q' => q' = q ∧ q.origin = relay.chain) (entries s) (entries s') past := by
  cases hcourse with
  | foreign _ hafter => exact settles_of_quiet hlinks hchain hplays (quiet_of_count hafter)
  | looking _ _ hopen => exact absurd rfl hopen
  | duplicate _ hlooks hafter =>
    refine settles_of_quiet hlinks hchain hplays fun t ht => ?_
    simp only [List.mem_append, List.mem_cons] at ht
    rcases ht with ht | rfl | ht
    · exact quiet_of_looks hlooks t ht
    · simp [Quiet]
    · exact quiet_of_count hafter t ht
  | dispatching _ _ _ hopen => exact absurd rfl hopen
  | refused horigin hlooks htries _ hafter =>
    obtain ⟨s₁, hlooked, hrest, hunseen⟩ := settles_of_looks hlinks hchain hplays hlooks
    obtain ⟨s₂, htried, hrest, hunseen⟩ := settles_of_tries hlinks hchain hrest htries hunseen
    obtain ⟨hanswer, hcounted⟩ := hrest.of_cons
    have hrefused := settles_of_unanswered hlinks hchain (.cons hanswer (.nil _))
      (List.forall_mem_singleton.2 rfl) rfl hunseen
    have hall := hlooked.append (htried.append (hrefused.append
      (settles_of_quiet hlinks hchain hcounted (quiet_of_count hafter))))
    simpa using hall.weaken fun _ hq => ⟨hq, horigin⟩
  | recording _ _ _ _ hopen => exact absurd rfl hopen
  | recorded horigin hlooks htries hwrites hafter =>
    -- Nothing happens to the record before the answer, so it is still missing then.
    obtain ⟨s₁, hlooked, hrest, hunseen⟩ := settles_of_looks hlinks hchain hplays hlooks
    obtain ⟨s₂, htried, hrest, hunseen⟩ := settles_of_tries hlinks hchain hrest htries hunseen
    have hall := hlooked.append (htried.append
      (settles_of_answered hlinks hchain hrest hwrites hafter hunseen))
    simpa using hall.weaken fun _ hq => ⟨hq, horigin⟩

/-- A transaction that is through. -/
theorem settles_of_envelope {b : RawBlock} {e : Envelope}
    (hleads : Leads (relay.relayEnvelope b e) past (.done ()))
    (hplays : Plays links.perform s past s') :
    relay.Settles (fun q => e.request? b = .ok (some q) ∧ q.origin = relay.chain) (entries s)
      (entries s') past := by
  cases passage_of_leads hleads with
  | malformed _ hpast => exact settles_of_quiet hlinks hchain hplays (quiet_of_count hpast)
  | other _ =>
    cases hplays
    exact .nil _ _
  | request hrequest hcourse =>
    refine (settles_of_course hlinks hchain hcourse hplays).weaken ?_
    rintro _ ⟨rfl, horigin⟩
    exact ⟨hrequest, horigin⟩

/-- The requests of the transactions of a block, one after the other. -/
theorem settles_of_parts {b : RawBlock} {envelopes : List Envelope} {parts : List (List Deed)}
    (hparts : List.Forall₂ (fun e part => Leads (relay.relayEnvelope b e) part (.done ()))
      envelopes parts)
    (henvelopes : ∀ e ∈ envelopes, e ∈ b.envelopes)
    (hplays : Plays links.perform s parts.flatten s') :
    relay.Settles (fun q => HoldsRequest b q ∧ q.origin = relay.chain) (entries s) (entries s')
      parts.flatten := by
  induction hparts generalizing s with
  | nil =>
    cases hplays
    exact .nil _ _
  | @cons e part envelopes parts hpart _ ih =>
    obtain ⟨he, henvelopes⟩ := List.forall_mem_cons.1 henvelopes
    obtain ⟨s₁, hfirst, hrest⟩ := hplays.split
    refine Settles.append ?_ (ih henvelopes hrest)
    refine (settles_of_envelope hlinks hchain hpart hfirst).weaken ?_
    rintro q ⟨hrequest, horigin⟩
    exact ⟨⟨e, he, hrequest⟩, horigin⟩

/-- A block that is processed to its end. -/
theorem settles_of_processBlock {b : RawBlock}
    (hleads : Leads (relay.processBlock b) past (.done ()))
    (hplays : Plays links.perform s past s') :
    relay.Settles (fun q => HoldsRequest b q ∧ q.origin = relay.chain) (entries s) (entries s')
      past := by
  obtain ⟨parts, tries, rfl, hparts, htries⟩ := of_leads_processBlock_done hleads
  obtain ⟨s₁, hfirst, hrest⟩ := hplays.split
  refine (settles_of_parts hlinks hchain hparts (fun _ => id) hfirst).append ?_
  refine settles_of_quiet hlinks hchain hrest (List.forall_mem_append.2 ⟨fun t ht => ?_, ?_⟩)
  · simp [Quiet, op_of_refusals htries t ht]
  · simp [Quiet]

end Faithful

/-! ## Runs -/

/-- Completed calls that process blocks, one after the other, with what they
did written down behind what went before. Each may be made by another relay of
the chain, with links of its own to the one store, and between two of them the
world may move, but nobody else writes the store. -/
inductive Completes (relay : Relay) (entries : σ → ByteMap) :
    List RawBlock → σ × List Deed → σ × List Deed → Prop where
  | none (x : σ × List Deed) : Completes relay entries [] x x
  | call {links : RelayLinks σ} {b : RawBlock} {blocks : List RawBlock} {patience left : Nat}
      {s s₁ : σ} {past : List Deed} {y z : σ × List Deed} (hlinks : links.Faithful entries)
      (hchain : links.chain = relay.chain) (hmeanwhile : entries s₁ = entries s)
      (hrun : (relay.processBlock b).run (journaled links.perform) patience (s₁, past)
        = ((.done (), left), y))
      (more : Completes relay entries blocks y z) :
      Completes relay entries (b :: blocks) (s, past) z

theorem settles_of_completes {entries : σ → ByteMap} {blocks : List RawBlock}
    {x y : σ × List Deed} (h : Completes relay entries blocks x y) :
    ∃ new, y.2 = x.2 ++ new ∧
      relay.Settles (fun q => ∃ b ∈ blocks, HoldsRequest b q ∧ q.origin = relay.chain)
        (entries x.1) (entries y.1) new := by
  -- Between two calls the entries stay, so what one call settles is where the next one
  -- starts.
  induction h with
  | none x => exact ⟨[], by simp, .nil _ _⟩
  | @call links b blocks patience left s s₁ past y z hlinks hchain hmeanwhile hrun more ih =>
    obtain ⟨new', hnew', hrest⟩ := ih
    obtain ⟨s₂, past₂⟩ := y
    obtain ⟨new, rfl, hplays, hleads⟩ := run_journaled hrun
    refine ⟨new ++ new', by rw [hnew', List.append_assoc], ?_⟩
    have hfirst := settles_of_processBlock hlinks hchain hleads hplays
    rw [hmeanwhile] at hfirst
    exact (hfirst.weaken fun q hq => ⟨b, List.mem_cons_self, hq⟩).append
      (hrest.weaken fun q ⟨b', hb', hq⟩ => ⟨b', List.mem_cons_of_mem _ hb', hq⟩)

/-- What a run of completed calls does, told by its journal and by the entries
of the store before and after it. -/
structure ExactlyOnce (relay : Relay) (blocks : List RawBlock) (m m' : ByteMap)
    (past : List Deed) : Prop where
  /-- A request is only dispatched if it had no record at the start and none has
  been written for its transaction since. -/
  dispatched {pre post : List Deed} {q : CrossChainRequest}
      {answer : Except HubError HubResponse} :
    past = pre ++ ⟨.dispatch q, answer⟩ :: post → seen relay.chain m q.found.txHash = false ∧
      ∀ p ∈ answers pre, p.1.found.txHash ≠ q.found.txHash
  /-- A contract is only called in the course of an answered request: to record the
  result with the routing contract, or because the answer asks for it. -/
  called {pre post : List Deed} {call : Invocation}
      {answer : Except LedgerError ContractResponse} :
    past = pre ++ ⟨.invoke call, answer⟩ :: post → ∃ q r, relay.WithinAnswer q r pre ∧
      (call = ⟨relay.router, "ChainCodeInvokeResult",
          [q.origin.bytes, q.destination.bytes, Utf8.encode q.transactionId, Utf8.encode q.stepId,
           r.payload, r.signer, Utf8.encode r.errorMessage]⟩ ∨
        callbackCall? r = some call)
  /-- For each transaction there is one answer at most. -/
  answeredOnce : ((answers past).map fun p => p.1.found.txHash).Nodup
  /-- There is a record afterwards exactly if there was one before or an answer. -/
  seenAfter (txHash : String) : seen relay.chain m' txHash = true ↔
    seen relay.chain m txHash = true ∨ ∃ p ∈ answers past, p.1.found.txHash = txHash
  /-- The record of an answered request is of the transaction and the block
  that held it. -/
  record {q : CrossChainRequest} {r : HubResponse} : (q, r) ∈ answers past →
    ∃ b ∈ blocks, ∃ e ∈ b.envelopes, e.request? b = .ok (some q) ∧ q.origin = relay.chain ∧
      ((BlockStore.inMemory relay.chain).transaction q.found.txHash).perform m'
        = (.ok (some ⟨q.found.txHash, b.number, b.hash, e.raw⟩), m')
  /-- Older records are as before. -/
  kept {txHash : String} : seen relay.chain m txHash = true →
    recordAt relay.chain m' txHash = recordAt relay.chain m txHash
  /-- The calls that are carried out are those that the answers ask for: each
  once, the result first, answer by answer. -/
  calls : carriedOut past = (answers past).flatMap fun p =>
    ⟨relay.router, "ChainCodeInvokeResult",
      [p.1.origin.bytes, p.1.destination.bytes, Utf8.encode p.1.transactionId,
       Utf8.encode p.1.stepId, p.2.payload, p.2.signer, Utf8.encode p.2.errorMessage]⟩ ::
      (callbackCall? p.2).toList

/-- The record of a request of a block that fits is read back. -/
theorem transaction_of_answered {b : RawBlock} (hb : b.Fits) {e : Envelope}
    (he : e ∈ b.envelopes) {q : CrossChainRequest} (hrequest : e.request? b = .ok (some q))
    (hrecord : recordAt relay.chain m q.found.txHash = some (recordOf q).encode) :
    ((BlockStore.inMemory relay.chain).transaction q.found.txHash).perform m
      = (.ok (some ⟨q.found.txHash, b.number, b.hash, e.raw⟩), m) := by
  have hholds := Envelope.request?_eq_request_iff.1 hrequest
  obtain ⟨txHash, htx, hfound⟩ : ∃ txHash, e.txHash = some txHash ∧
    q.found = ⟨txHash, b.number, b.hash, e.raw⟩ := ⟨_, hholds.txHash.1, hholds.found⟩
  have hrecordOf : recordOf q = ⟨txHash, b.number, b.hash, e.raw⟩ := by
    rw [recordOf, hfound]
  have hfits : (recordOf q).Fits := by
    rw [hrecordOf]
    exact ⟨hb.txHash he htx, hb.hash, hb.raw he⟩
  rw [hrecordOf] at hfits hrecord
  rw [hfound] at hrecord ⊢
  exact transaction_perform (r := ⟨txHash, b.number, b.hash, e.raw⟩) hfits hrecord

/-- Whatever blocks are processed to their end, in whatever order and however
often, by however many relays of a chain over one store: every request is
answered and recorded once, and what its answer asks for is done once. -/
theorem completed_runs_are_exactly_once {relay : Relay} {entries : σ → ByteMap}
    {blocks : List RawBlock} {s s' : σ} {past : List Deed}
    (h : Completes relay entries blocks (s, []) (s', past)) (hfits : ∀ b ∈ blocks, b.Fits) :
    relay.ExactlyOnce blocks (entries s) (entries s') past := by
  obtain ⟨new, hnew, hsettles⟩ := settles_of_completes h
  obtain rfl : past = new := hnew
  exact {
    dispatched := fun hpast => (hsettles.fresh hpast).2
    called := fun hpast => by
      obtain ⟨q, r, hwithin, hcall⟩ := hsettles.owned hpast
      exact ⟨q, r, hwithin, (List.mem_cons.1 hcall).imp_right Option.mem_toList.1⟩
    answeredOnce := hsettles.once
    seenAfter := hsettles.seen_iff
    record := fun hanswer => by
      obtain ⟨⟨b, hb, ⟨e, he, hrequest⟩, horigin⟩, -⟩ := hsettles.of_answered hanswer
      have hrecord := hsettles.recorded hanswer
      have hread := transaction_of_answered (hfits b hb) he hrequest hrecord
      exact ⟨b, hb, e, he, hrequest, horigin, hread⟩
    kept := fun {txHash} hseen => by
      refine hsettles.kept fun p hp heq => ?_
      have hunseen := (hsettles.of_answered hp).2
      rw [heq, hseen] at hunseen
      cases hunseen
    calls := hsettles.calls }

/-! ### One block, twice

The block of the bench is processed, and then once more. -/

/-- The bench and the journal after the block has been processed. -/
def processedOnBench (x : Bench × List Deed) : Bench × List Deed :=
  (((⟨Bench.chain, "router"⟩ : Relay).processBlock Bench.block).run (journaled Bench.perform) 0 x).2

theorem bench_completes {x : Bench × List Deed}
    (h : (((⟨Bench.chain, "router"⟩ : Relay).processBlock Bench.block).run
      (journaled Bench.perform) 0 x).1.1.value? = some ())
    {blocks : List RawBlock} {z : Bench × List Deed}
    (more : Completes ⟨Bench.chain, "router"⟩ Prod.fst blocks (processedOnBench x) z) :
    Completes ⟨Bench.chain, "router"⟩ Prod.fst (Bench.block :: blocks) x z := by
  obtain ⟨left, hrun⟩ := run_of_value? h
  exact .call (RelayLinks.onBench_faithful _ _) rfl rfl hrun more

theorem replayed_block_is_exactly_once :
    ∃ s past, Completes ⟨Bench.chain, "router"⟩ Prod.fst [Bench.block, Bench.block]
        (Bench.start, []) (s, past) ∧
      ExactlyOnce ⟨Bench.chain, "router"⟩ [Bench.block, Bench.block] Bench.start.1 s.1 past ∧
      (answers past).length = 1 ∧ (carriedOut past).length = 1 := by
  have hruns : Completes ⟨Bench.chain, "router"⟩ Prod.fst [Bench.block, Bench.block]
      (Bench.start, []) (processedOnBench (processedOnBench (Bench.start, []))) :=
    bench_completes (by decide +kernel) (bench_completes (by decide +kernel) (.none _))
  refine ⟨_, _, hruns, ?_, by decide +kernel, by decide +kernel⟩
  exact completed_runs_are_exactly_once hruns (by simpa using Bench.block_fits)

end Relay

end RelayHub
