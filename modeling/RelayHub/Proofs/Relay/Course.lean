/-
The course of a request through a relay.

Whatever the store, the ledger and the other hubs answer, a request takes one
course: its record is looked up, it is handed to its destination, the answer is
recorded, the result and the callback are called. `Course` lists the stages
with the journal that leads to each, and `course_of_leads` says that there are
no others. What later theorems say about requests, stopped ones included, they
read off the stages, and none of them opens the relay's scripts again.
-/
import RelayHub.Proofs.Retry.Journal
import RelayHub.Relay.Process

set_option autoImplicit false

namespace RelayHub

open Script

/-! ## What a relay's journal shows -/

instance : (op : RelayOp) → DecidableEq op.Answer
  | .latest => inferInstanceAs (DecidableEq (Except StoreError UInt64))
  | .query _ => inferInstanceAs (DecidableEq (Except LedgerError RawBlock))
  | .hasSeen _ => inferInstanceAs (DecidableEq (Except StoreError Bool))
  | .dispatch _ => inferInstanceAs (DecidableEq (Except HubError HubResponse))
  | .recordSeen _ => inferInstanceAs (DecidableEq (Except StoreError Bool))
  | .invoke _ => inferInstanceAs (DecidableEq (Except LedgerError ContractResponse))
  | .storeBlock _ => inferInstanceAs (DecidableEq (Except StoreError Unit))
  | .count _ => inferInstanceAs (DecidableEq Unit)

/-- An operation of a relay that was tried, and what it answered. -/
abbrev Deed := Tried RelayOp RelayOp.Answer

namespace Deed

/-- The contract call that a deed carried out: one that was answered with
success. -/
def carriedOut? : Deed → Option Invocation
  | ⟨.invoke call, .ok response⟩ => if response.isOk then some call else none
  | _ => none

/-- The request that a deed found an answer to, with the answer. -/
def answer? : Deed → Option (CrossChainRequest × HubResponse)
  | ⟨.dispatch q, .ok r⟩ => some (q, r)
  | _ => none

/-- The contract calls that a journal carried out, in order. -/
def carriedOut (past : List Deed) : List Invocation :=
  past.filterMap carriedOut?

/-- The requests that a journal found answers to, in order. -/
def answers (past : List Deed) : List (CrossChainRequest × HubResponse) :=
  past.filterMap answer?

@[simp] theorem carriedOut_nil : carriedOut [] = [] := rfl

@[simp] theorem answers_nil : answers [] = [] := rfl

@[simp] theorem carriedOut_append (past past' : List Deed) :
    carriedOut (past ++ past') = carriedOut past ++ carriedOut past' :=
  List.filterMap_append

@[simp] theorem answers_append (past past' : List Deed) :
    answers (past ++ past') = answers past ++ answers past' :=
  List.filterMap_append

end Deed

open Deed

/-! ## Tries that would not do

Each kind of operation has its own test of an answer. These say what a refused
try of a kind leaves out of the journal. -/

theorem op_of_refusals {α : Type} {op : RelayOp} {accept : op.Answer → Option α}
    {tries : List Deed} (h : Refusals op accept tries) : ∀ t ∈ tries, t.op = op := by
  intro t ht
  obtain ⟨answer, rfl, -⟩ := h t ht
  rfl

theorem carriedOut_refused_calls {call : Invocation} {tries : List Deed}
    (h : Refusals (.invoke call) Accept.carriedOut tries) : carriedOut tries = [] := by
  refine List.filterMap_eq_nil_iff.2 fun t ht => ?_
  obtain ⟨answer, rfl, hrefused⟩ := h t ht
  cases answer with
  | error e => rfl
  | ok response =>
    rw [Accept.carriedOut] at hrefused
    unfold carriedOut?
    split at hrefused
    · cases hrefused
    · rename_i hnot
      exact if_neg hnot

theorem answers_refused_dispatches {q : CrossChainRequest} {tries : List Deed}
    (h : Refusals (.dispatch q) Accept.settled tries) : answers tries = [] := by
  refine List.filterMap_eq_nil_iff.2 fun t ht => ?_
  obtain ⟨answer, rfl, hrefused⟩ := h t ht
  cases answer with
  | error e => rfl
  | ok response => simp [Accept.settled] at hrefused

theorem eq_ok_of_succeeded {ε α : Type} {r : Except ε α} {v : α} (h : succeeded r = some v) :
    r = .ok v := by
  cases r with
  | error e => cases h
  | ok w => exact congrArg Except.ok (Option.some.inj h)

/-- An answer that settles a request is a refusal for good or a response. -/
theorem of_settled {r v : Except HubError HubResponse} (h : Accept.settled r = some v) :
    (∃ e, r = .error e ∧ v = .error e ∧ e.isTransient = false) ∨
      ∃ response, r = .ok response ∧ v = .ok response := by
  cases r with
  | ok response => exact .inr ⟨response, rfl, (Option.some.inj h).symm⟩
  | error e =>
    rw [Accept.settled] at h
    split at h
    · cases h
    · rename_i hfinal
      exact .inl ⟨e, rfl, (Option.some.inj h).symm, Bool.eq_false_iff.2 hfinal⟩

/-! ## Operations for requests -/

/-- Whether requests take an operation. The others fetch and store blocks. -/
def RelayOp.forRequests : RelayOp → Bool
  | .latest | .query _ | .storeBlock _ => false
  | _ => true

theorem forRequests_of_refusals {α : Type} {op : RelayOp} {accept : op.Answer → Option α}
    {tries : List Deed} (h : Refusals op accept tries) (hop : op.forRequests = true) :
    ∀ t ∈ tries, t.op.forRequests = true := by
  intro t ht
  rw [op_of_refusals h t ht]
  exact hop

/-! ## Fetching -/

namespace Cursor

theorem of_checked {n : UInt64} {r : Except LedgerError RawBlock} {b : RawBlock}
    (h : checked n r = .ok b) : r = .ok b ∧ b.number = n := by
  unfold checked at h
  split at h
  · split at h
    · rename_i hn
      cases h
      exact ⟨rfl, hn⟩
    · cases h
  · cases h

/-- Asking where to start, until the store says it. -/
theorem of_tries_new {t : Deed} {work : RelayScript RawBlock} (h : Tries new.next t work) :
    (t.op = .latest ∧ work = new.next) ∨ ∃ n, t = ⟨.latest, .ok n⟩ ∧ work = query (n + 1) := by
  cases h with
  | @accepted _ _ answer _ _ n hn => exact .inr ⟨n, by rw [eq_ok_of_succeeded hn], rfl⟩
  | refused h => exact .inl ⟨rfl, rfl⟩

/-- Asking for a block, until the ledger answers with one of that number. -/
theorem of_tries_query {n : UInt64} {t : Deed} {work : RelayScript RawBlock}
    (h : Tries (query n) t work) :
    (t.op = .query n ∧ work = query n) ∨
      ∃ b, b.number = n ∧ t = ⟨.query n, .ok b⟩ ∧ work = .done b := by
  cases h with
  | @accepted _ _ answer _ _ b hb =>
    obtain ⟨hanswer, hn⟩ := of_checked (eq_ok_of_succeeded hb)
    exact .inr ⟨b, hn, by rw [hanswer], rfl⟩
  | refused h => exact .inl ⟨rfl, rfl⟩

end Cursor

/-! ## Results and callbacks -/

namespace Relay

/-- The calls that an answered request asks for: its result, and the callback
if there is one. -/
def callsFor (relay : Relay) (q : CrossChainRequest) (r : HubResponse) : List Invocation :=
  relay.resultCall q r :: (callbackCall? r).toList

/-- Making a call until it is carried out. -/
theorem of_leads_invoke {call : Invocation} {past : List Deed} {rest : RelayScript Unit}
    (h : Leads (invoke call) past rest) :
    (∀ t ∈ past, t.op = .invoke call) ∧
      ((rest = invoke call ∧ carriedOut past = []) ∨
        (rest = .done () ∧ carriedOut past = [call])) := by
  rcases of_leads_insist h with ⟨rfl, htries⟩ | ⟨tries, answer, v, rfl, htries, hv, rfl⟩
  · exact ⟨op_of_refusals htries, .inl ⟨rfl, carriedOut_refused_calls htries⟩⟩
  · refine ⟨fun t ht => ?_, .inr ⟨rfl, ?_⟩⟩
    · rcases List.mem_append.1 ht with ht | ht
      · exact op_of_refusals htries t ht
      · rw [List.mem_singleton.1 ht]
    -- The last try is the one that would do, and so the one that is carried out.
    · rw [carriedOut_append, carriedOut_refused_calls htries, List.nil_append]
      cases answer with
      | error e => simp [Accept.carriedOut] at hv
      | ok response =>
        rw [Accept.carriedOut] at hv
        split at hv
        · rename_i hok
          simp [carriedOut, carriedOut?, hok]
        · cases hv

/-- The call that a response asks for, made until it is carried out. -/
theorem of_leads_callback {o : Option Invocation} {past : List Deed} {rest : RelayScript Unit}
    (h : Leads (match o with | some call => invoke call | none => .done ()) past rest) :
    (∀ t ∈ past, ∃ call ∈ o.toList, t.op = .invoke call) ∧
      carriedOut past <+: o.toList ∧ (rest = .done () → carriedOut past = o.toList) := by
  cases o with
  | none =>
    obtain ⟨rfl, rfl⟩ := Leads.of_done h
    exact ⟨by simp, List.prefix_rfl, fun _ => rfl⟩
  | some call =>
    obtain ⟨hops, ⟨rfl, hnone⟩ | ⟨rfl, hone⟩⟩ := of_leads_invoke h
    · exact ⟨fun t ht => ⟨call, List.mem_singleton_self call, hops t ht⟩, hnone ▸ List.nil_prefix,
        fun hdone => by simp [invoke, insist] at hdone⟩
    · exact ⟨fun t ht => ⟨call, List.mem_singleton_self call, hops t ht⟩, hone ▸ List.prefix_rfl,
        fun _ => hone⟩

/-- Applying a result makes its calls in order, each until it is carried out;
it is over when all of them are. -/
theorem of_leads_applyResult {relay : Relay} {q : CrossChainRequest} {r : HubResponse}
    {past : List Deed} {rest : RelayScript Unit} (h : Leads (relay.applyResult q r) past rest) :
    (∀ t ∈ past, ∃ call ∈ relay.callsFor q r, t.op = .invoke call) ∧
      carriedOut past <+: relay.callsFor q r ∧
        (rest = .done () → carriedOut past = relay.callsFor q r) := by
  -- The callback may be none, but it always stands behind the result.
  have hsplit : relay.applyResult q r = (invoke (relay.resultCall q r)).andThen fun _ =>
      match callbackCall? r with | some call => invoke call | none => .done () := rfl
  rw [hsplit] at h
  unfold callsFor
  rcases of_leads_andThen h with ⟨a, ha, hopen, rfl⟩ | ⟨v, before, after, rfl, hbefore, hafter⟩
  · obtain ⟨hops, ⟨-, hnone⟩ | ⟨rfl, -⟩⟩ := of_leads_invoke ha
    · exact ⟨fun t ht => ⟨_, List.mem_cons_self, hops t ht⟩, hnone ▸ List.nil_prefix,
        fun hdone => absurd hdone (andThen_ne_done hopen)⟩
    · cases hopen
  · obtain ⟨hops, ⟨hopen, -⟩ | ⟨-, hone⟩⟩ := of_leads_invoke hbefore
    · simp [invoke, insist] at hopen
    · obtain ⟨hops', hprefix, hall⟩ := of_leads_callback hafter
      refine ⟨fun t ht => ?_, ?_, fun hdone => ?_⟩
      · rcases List.mem_append.1 ht with ht | ht
        · exact ⟨_, List.mem_cons_self, hops t ht⟩
        · obtain ⟨call, hcall, hop⟩ := hops' t ht
          exact ⟨call, List.mem_cons_of_mem _ hcall, hop⟩
      · rw [carriedOut_append, hone]
        exact (List.prefix_append_right_inj [relay.resultCall q r]).2 hprefix
      · rw [carriedOut_append, hone, hall hdone, List.singleton_append]

/-- A journal of tries of calls, one call after the other: each is tried until it is carried
out, and only then the next one. -/
def TriedInOrder : List Invocation → List Deed → Prop
  | [], past => past = []
  | call :: calls, past =>
    Refusals (.invoke call) Accept.carriedOut past ∨
      ∃ tries answer later, past = tries ++ ⟨.invoke call, answer⟩ :: later ∧
        Refusals (.invoke call) Accept.carriedOut tries ∧ Accept.carriedOut answer = some () ∧
        TriedInOrder calls later

/-- Applying a result tries its calls in order. -/
theorem triedInOrder_of_applyResult {relay : Relay} {q : CrossChainRequest} {r : HubResponse}
    {past : List Deed} {rest : RelayScript Unit} (h : Leads (relay.applyResult q r) past rest) :
    TriedInOrder (relay.callsFor q r) past := by
  have hsplit : relay.applyResult q r = (invoke (relay.resultCall q r)).andThen fun _ =>
      match callbackCall? r with | some call => invoke call | none => .done () := rfl
  rw [hsplit] at h
  rw [callsFor]
  rcases of_leads_insist_andThen h with ⟨-, htries⟩ |
    ⟨tries, answer, _, later, hpast, htries, haccepted, hlater⟩
  · exact .inl htries
  · refine .inr ⟨tries, answer, later, hpast, htries, haccepted, ?_⟩
    cases hcallback : callbackCall? r with
    | none =>
      rw [hcallback] at hlater
      exact hlater.of_done.1
    | some call =>
      rw [hcallback] at hlater
      rcases of_leads_insist hlater with ⟨-, htries⟩ | ⟨tries, answer, _, rfl, htries, haccepted, -⟩
      · exact .inl htries
      · exact .inr ⟨tries, answer, [], rfl, htries, haccepted, rfl⟩

/-- Counting tries nothing but the count. -/
theorem of_leads_count {counter : Counter} {past : List Deed} {rest : RelayScript Unit}
    (h : Leads (count counter) past rest) :
    (past = [] ∧ rest = count counter) ∨ (past = [⟨.count counter, ()⟩] ∧ rest = .done ()) := by
  rcases of_leads_insist h with ⟨rfl, htries⟩ | ⟨tries, answer, v, rfl, htries, -, rfl⟩
  · refine .inl ⟨List.eq_nil_iff_forall_not_mem.2 fun t ht => ?_, rfl⟩
    obtain ⟨answer, -, hrefused⟩ := htries t ht
    cases hrefused
  · refine .inr ⟨?_, rfl⟩
    have hnil : tries = [] := List.eq_nil_iff_forall_not_mem.2 fun t ht => by
      obtain ⟨answer, -, hrefused⟩ := htries t ht
      cases hrefused
    rw [hnil, List.nil_append]

/-- Counting that is over. -/
theorem eq_of_counting {counter : Counter} {past : List Deed}
    (h : Leads (count counter) past (.done ())) : past = [⟨.count counter, ()⟩] := by
  rcases of_leads_count h with ⟨-, hopen⟩ | ⟨hpast, -⟩
  · simp [count, insist] at hopen
  · exact hpast

/-- An answered request that is over has made its calls, and then counted. -/
theorem of_leads_applying_done {relay : Relay} {q : CrossChainRequest} {r : HubResponse}
    {counter : Counter} {past : List Deed}
    (h : Leads ((relay.applyResult q r).andThen fun _ => count counter) past (.done ())) :
    ∃ body, past = body ++ [⟨.count counter, ()⟩] ∧ carriedOut body = relay.callsFor q r ∧
      ∀ t ∈ body, ∃ call ∈ relay.callsFor q r, t.op = .invoke call := by
  obtain ⟨_, body, after, rfl, hbody, hafter⟩ := of_leads_andThen_done h
  obtain ⟨hops, -, hall⟩ := of_leads_applyResult hbody
  obtain rfl := eq_of_counting hafter
  exact ⟨body, rfl, hall rfl, hops⟩

/-! ## Requests -/

/-- A stage of a request: the journal that leads to it, and what is left to do.
A stage that is still trying is not done. -/
inductive Course (relay : Relay) (q : CrossChainRequest) :
    List Deed → RelayScript Unit → Prop where
  /-- The request is another chain's. -/
  | foreign {after : List Deed} {rest : RelayScript Unit} (hforeign : q.origin ≠ relay.chain)
      (hafter : Leads (count .malformedRequests) after rest) : Course relay q after rest
  /-- Its record is still looked up. -/
  | looking {looks : List Deed} {rest : RelayScript Unit} (horigin : q.origin = relay.chain)
      (hlooks : Refusals (.hasSeen q.found.txHash) succeeded looks) (hopen : rest ≠ .done ()) :
      Course relay q looks rest
  /-- It has a record. -/
  | duplicate {looks after : List Deed} {rest : RelayScript Unit}
      (horigin : q.origin = relay.chain)
      (hlooks : Refusals (.hasSeen q.found.txHash) succeeded looks)
      (hafter : Leads (count .duplicatesSkipped) after rest) :
      Course relay q (looks ++ ⟨.hasSeen q.found.txHash, .ok true⟩ :: after) rest
  /-- It has none, and its destination has not settled it. -/
  | dispatching {looks tries : List Deed} {rest : RelayScript Unit}
      (horigin : q.origin = relay.chain)
      (hlooks : Refusals (.hasSeen q.found.txHash) succeeded looks)
      (htries : Refusals (.dispatch q) Accept.settled tries) (hopen : rest ≠ .done ()) :
      Course relay q (looks ++ ⟨.hasSeen q.found.txHash, .ok false⟩ :: tries) rest
  /-- It was refused for good. -/
  | refused {looks tries after : List Deed} {e : HubError} {rest : RelayScript Unit}
      (horigin : q.origin = relay.chain)
      (hlooks : Refusals (.hasSeen q.found.txHash) succeeded looks)
      (htries : Refusals (.dispatch q) Accept.settled tries) (hfinal : e.isTransient = false)
      (hafter : Leads (count .dispatchFailures) after rest) :
      Course relay q (looks ++ ⟨.hasSeen q.found.txHash, .ok false⟩ ::
        (tries ++ ⟨.dispatch q, .error e⟩ :: after)) rest
  /-- It was answered, and its record is not written. -/
  | recording {looks tries writes : List Deed} {r : HubResponse} {rest : RelayScript Unit}
      (horigin : q.origin = relay.chain)
      (hlooks : Refusals (.hasSeen q.found.txHash) succeeded looks)
      (htries : Refusals (.dispatch q) Accept.settled tries)
      (hwrites : Refusals (.recordSeen (recordOf q)) succeeded writes) (hopen : rest ≠ .done ()) :
      Course relay q (looks ++ ⟨.hasSeen q.found.txHash, .ok false⟩ ::
        (tries ++ ⟨.dispatch q, .ok r⟩ :: writes)) rest
  /-- Its record is written, and its calls are under way or over. -/
  | recorded {looks tries writes after : List Deed} {r : HubResponse} {wrote : Bool}
      {rest : RelayScript Unit} (horigin : q.origin = relay.chain)
      (hlooks : Refusals (.hasSeen q.found.txHash) succeeded looks)
      (htries : Refusals (.dispatch q) Accept.settled tries)
      (hwrites : Refusals (.recordSeen (recordOf q)) succeeded writes)
      (hafter : Leads ((relay.applyResult q r).andThen fun _ => count .requestsRelayed) after rest) :
      Course relay q (looks ++ ⟨.hasSeen q.found.txHash, .ok false⟩ ::
        (tries ++ ⟨.dispatch q, .ok r⟩ ::
          (writes ++ ⟨.recordSeen (recordOf q), .ok wrote⟩ :: after))) rest

/-- A request takes no other course. -/
theorem course_of_leads {relay : Relay} {q : CrossChainRequest} {past : List Deed}
    {rest : RelayScript Unit} (h : Leads (relay.relayRequest q) past rest) :
    Course relay q past rest := by
  unfold relayRequest at h
  split at h
  · exact .foreign ‹_› h
  · rename_i hnot
    have horigin : q.origin = relay.chain := Decidable.not_not.1 hnot
    -- Each operation is insisted on, so at each the journal stops or gets past it.
    rcases of_leads_insist_andThen h with ⟨rfl, hlooks⟩ |
      ⟨looks, answer, seen, after, rfl, hlooks, hseen, hlooked⟩
    · exact .looking horigin hlooks (andThen_ne_done rfl)
    · obtain rfl := eq_ok_of_succeeded hseen
      cases seen with
      | true => exact .duplicate horigin hlooks hlooked
      | false =>
        rcases of_leads_insist_andThen hlooked with ⟨rfl, htries⟩ |
          ⟨tries, answer, v, after, rfl, htries, hv, hdispatched⟩
        · exact .dispatching horigin hlooks htries (andThen_ne_done rfl)
        · rcases of_settled hv with ⟨e, rfl, rfl, hfinal⟩ | ⟨r, rfl, rfl⟩
          · exact .refused horigin hlooks htries hfinal hdispatched
          · rcases of_leads_insist_andThen hdispatched with ⟨rfl, hwrites⟩ |
              ⟨writes, answer, wrote, after, rfl, hwrites, hwrote, hrecorded⟩
            · exact .recording horigin hlooks htries hwrites (andThen_ne_done rfl)
            · obtain rfl := eq_ok_of_succeeded hwrote
              exact .recorded horigin hlooks htries hwrites hrecorded

theorem forRequests_of_count {counter : Counter} {past : List Deed} {rest : RelayScript Unit}
    (h : Leads (count counter) past rest) : ∀ t ∈ past, t.op.forRequests = true := by
  rcases of_leads_count h with ⟨rfl, -⟩ | ⟨rfl, -⟩ <;> simp [RelayOp.forRequests]

theorem forRequests_of_applyResult {relay : Relay} {q : CrossChainRequest} {r : HubResponse}
    {past : List Deed} {rest : RelayScript Unit} (h : Leads (relay.applyResult q r) past rest) :
    ∀ t ∈ past, t.op.forRequests = true := by
  intro t ht
  obtain ⟨call, -, hop⟩ := (of_leads_applyResult h).1 t ht
  rw [hop]
  rfl

/-- A request takes no operations but those for requests. -/
theorem forRequests_of_course {relay : Relay} {q : CrossChainRequest} {past : List Deed}
    {rest : RelayScript Unit} (h : Course relay q past rest) :
    ∀ t ∈ past, t.op.forRequests = true := by
  -- Each part of a course is tries of one operation, and all of these are for requests.
  have hlook : ∀ {looks : List Deed}, Refusals (.hasSeen q.found.txHash) succeeded looks →
      ∀ t ∈ looks, t.op.forRequests = true := fun h => forRequests_of_refusals h rfl
  have htry : ∀ {tries : List Deed}, Refusals (.dispatch q) Accept.settled tries →
      ∀ t ∈ tries, t.op.forRequests = true := fun h => forRequests_of_refusals h rfl
  have hwrite : ∀ {writes : List Deed}, Refusals (.recordSeen (recordOf q)) succeeded writes →
      ∀ t ∈ writes, t.op.forRequests = true := fun h => forRequests_of_refusals h rfl
  cases h with
  | foreign _ hafter => exact forRequests_of_count hafter
  | looking _ hlooks _ => exact hlook hlooks
  | duplicate _ hlooks hafter =>
    exact List.forall_mem_append.2 ⟨hlook hlooks,
      List.forall_mem_cons.2 ⟨rfl, forRequests_of_count hafter⟩⟩
  | dispatching _ hlooks htries _ =>
    exact List.forall_mem_append.2 ⟨hlook hlooks, List.forall_mem_cons.2 ⟨rfl, htry htries⟩⟩
  | refused _ hlooks htries _ hafter =>
    exact List.forall_mem_append.2 ⟨hlook hlooks, List.forall_mem_cons.2 ⟨rfl,
      List.forall_mem_append.2 ⟨htry htries,
        List.forall_mem_cons.2 ⟨rfl, forRequests_of_count hafter⟩⟩⟩⟩
  | recording _ hlooks htries hwrites _ =>
    exact List.forall_mem_append.2 ⟨hlook hlooks, List.forall_mem_cons.2 ⟨rfl,
      List.forall_mem_append.2 ⟨htry htries, List.forall_mem_cons.2 ⟨rfl, hwrite hwrites⟩⟩⟩⟩
  | @recorded _ _ _ after _ _ _ _ hlooks htries hwrites hafter =>
    have hcalls : ∀ t ∈ after, t.op.forRequests = true := by
      rcases of_leads_andThen hafter with ⟨a, ha, -, -⟩ | ⟨_, body, counts, rfl, hbody, hcounts⟩
      · exact forRequests_of_applyResult ha
      · exact List.forall_mem_append.2
          ⟨forRequests_of_applyResult hbody, forRequests_of_count hcounts⟩
    exact List.forall_mem_append.2 ⟨hlook hlooks, List.forall_mem_cons.2 ⟨rfl,
      List.forall_mem_append.2 ⟨htry htries, List.forall_mem_cons.2 ⟨rfl,
        List.forall_mem_append.2 ⟨hwrite hwrites, List.forall_mem_cons.2 ⟨rfl, hcalls⟩⟩⟩⟩⟩⟩

/-! ## Blocks -/

/-- A request of a block. -/
def HoldsRequest (b : RawBlock) (q : CrossChainRequest) : Prop :=
  ∃ e ∈ b.envelopes, e.request? b = .ok (some q)

/-- What a transaction of a block comes to. -/
inductive Passage (relay : Relay) (b : RawBlock) (e : Envelope) :
    List Deed → RelayScript Unit → Prop where
  /-- It looks like a request and is none. -/
  | malformed {x : ExtractError} {past : List Deed} {rest : RelayScript Unit}
      (hrequest : e.request? b = .error x) (hpast : Leads (count .malformedRequests) past rest) :
      Passage relay b e past rest
  /-- It is passed over. -/
  | other (hrequest : e.request? b = .ok none) : Passage relay b e [] (.done ())
  /-- It holds a request, which takes its course. -/
  | request {q : CrossChainRequest} {past : List Deed} {rest : RelayScript Unit}
      (hrequest : e.request? b = .ok (some q)) (hcourse : Course relay q past rest) :
      Passage relay b e past rest

theorem passage_of_leads {relay : Relay} {b : RawBlock} {e : Envelope} {past : List Deed}
    {rest : RelayScript Unit} (h : Leads (relay.relayEnvelope b e) past rest) :
    Passage relay b e past rest := by
  unfold relayEnvelope at h
  split at h
  · exact .malformed ‹_› h
  · obtain ⟨rfl, rfl⟩ := Leads.of_done h
    exact .other ‹_›
  · exact .request ‹_› (course_of_leads h)

theorem forRequests_of_leads {relay : Relay} {b : RawBlock} {e : Envelope} {past : List Deed}
    {rest : RelayScript Unit} (h : Leads (relay.relayEnvelope b e) past rest) :
    ∀ t ∈ past, t.op.forRequests = true := by
  cases passage_of_leads h with
  | malformed _ hpast => exact forRequests_of_count hpast
  | other _ => simp
  | request _ hcourse => exact forRequests_of_course hcourse

/-- The transactions of a block take no operations but those for requests. -/
theorem forRequests_of_each {relay : Relay} {b : RawBlock} {envelopes : List Envelope}
    {past : List Deed} {rest : RelayScript Unit}
    (h : Leads (each envelopes (relay.relayEnvelope b)) past rest) :
    ∀ t ∈ past, t.op.forRequests = true := by
  obtain ⟨finished, parts, hparts, hend⟩ := of_leads_each h
  have hfinished : ∀ t ∈ parts.flatten, t.op.forRequests = true := by
    clear hend
    induction hparts with
    | nil => simp
    | cons hpart _ ih =>
      rw [List.flatten_cons]
      exact List.forall_mem_append.2 ⟨forRequests_of_leads hpart, ih⟩
  rcases hend with ⟨-, rfl, -⟩ | ⟨e, more, last, a, -, rfl, hlast, -, -⟩
  · exact hfinished
  · exact List.forall_mem_append.2 ⟨hfinished, forRequests_of_leads hlast⟩

/-- A block is stored once its transactions are through, however often that
takes. -/
theorem of_leads_persist {relay : Relay} {b : RawBlock} {past : List Deed}
    {rest : RelayScript Unit} (h : Leads (relay.persist b) past rest) :
    (rest = relay.persist b ∧
        Refusals (.storeBlock (.ofRaw relay.chain b)) succeeded past) ∨
      ∃ tries after, past = tries ++ ⟨.storeBlock (.ofRaw relay.chain b), .ok ()⟩ :: after ∧
        Refusals (.storeBlock (.ofRaw relay.chain b)) succeeded tries ∧
        Leads (count .blocksProcessed) after rest := by
  rcases of_leads_insist_andThen h with ⟨hrest, htries⟩ |
    ⟨tries, answer, v, after, rfl, htries, hv, hafter⟩
  · exact .inl ⟨hrest, htries⟩
  · obtain rfl := eq_ok_of_succeeded hv
    exact .inr ⟨tries, after, rfl, htries, hafter⟩

/-- Processing a block goes through its transactions, and then stores it. -/
theorem of_leads_processBlock {relay : Relay} {b : RawBlock} {past : List Deed}
    {rest : RelayScript Unit} (h : Leads (relay.processBlock b) past rest) :
    (∃ a, Leads (each b.envelopes (relay.relayEnvelope b)) past a ∧ a.value? = none ∧
        rest = a.andThen fun _ => relay.persist b) ∨
      ∃ before after, past = before ++ after ∧
        Leads (each b.envelopes (relay.relayEnvelope b)) before (.done ()) ∧
        Leads (relay.persist b) after rest := by
  rcases of_leads_andThen h with hopen | ⟨_, before, after, hpast, hbefore, hafter⟩
  · exact .inl hopen
  · exact .inr ⟨before, after, hpast, hbefore, hafter⟩

/-- A block that is processed to its end: its transactions, one after the other, and
then the block is stored and counted. -/
theorem of_leads_processBlock_done {relay : Relay} {b : RawBlock} {past : List Deed}
    (h : Leads (relay.processBlock b) past (.done ())) :
    ∃ parts tries, past = parts.flatten ++
        (tries ++ [⟨.storeBlock (.ofRaw relay.chain b), .ok ()⟩, ⟨.count .blocksProcessed, ()⟩]) ∧
      List.Forall₂ (fun e part => Leads (relay.relayEnvelope b e) part (.done ()))
        b.envelopes parts ∧
      Refusals (.storeBlock (.ofRaw relay.chain b)) succeeded tries := by
  obtain ⟨_, before, after, rfl, hbefore, hafter⟩ := of_leads_andThen_done h
  obtain ⟨parts, hparts, rfl⟩ := of_leads_each_done hbefore
  rcases of_leads_persist hafter with ⟨hopen, -⟩ | ⟨tries, after, rfl, htries, hcount⟩
  · exact absurd hopen.symm (andThen_ne_done rfl)
  · rw [eq_of_counting hcount]
    exact ⟨parts, tries, rfl, hparts, htries⟩

end Relay

end RelayHub
