/-
The books of a chain in memory are in order.

Whatever is done to a chain, it commits a block behind those it has, or a call of a
contract succeeds and is kept, or its books stay as they are. So the books of a chain that
started with none agree with each other: the blocks are numbered and linked by hash, the
requests are those that the kept calls have registered, each pair once, and there are
results of registered pairs only. Locks are kept beside the books: chaincode stays locked
until it is unlocked, and as long as it is, no call of the proxy contract depends on what
it would do.
-/
import Mathlib.Data.List.Nodup
import RelayHub.Proofs.Ledger.Registered

set_option autoImplicit false

namespace RelayHub

open RelayHub.Action

/-! ## Blocks that are linked -/

/-- A block as it comes behind these blocks. -/
structure RawBlock.Continues (earlier : List RawBlock) (b : RawBlock) : Prop where
  number : b.number = UInt64.ofNat (earlier.length + 1)
  previousHash : b.previousHash = (earlier.getLast?.map RawBlock.hash).getD ""
  origin : b.origin = Envelope.codec.list.write b.envelopes
  dataHash : b.dataHash = Crypto.sha256Hex b.origin
  hash : b.hash = Crypto.sha256Hex
    (Bytes.ofWordBE b.number ++ Utf8.encode b.previousHash ++ Utf8.encode b.dataHash)

/-- Blocks each of which comes behind those before it. -/
inductive Chained : List RawBlock → Prop where
  | none : Chained []
  | more {blocks : List RawBlock} {b : RawBlock} (h : Chained blocks) (last : b.Continues blocks) :
    Chained (blocks ++ [b])

theorem Chained.continues {blocks : List RawBlock} (h : Chained blocks) {i : Nat} {b : RawBlock}
    (hb : blocks[i]? = some b) : b.Continues (blocks.take i) := by
  induction h with
  | none => cases hb
  | @more blocks b' h last ih =>
    rcases Nat.lt_or_ge i blocks.length with hi | hi
    · rw [List.getElem?_append_left hi] at hb
      rw [List.take_append_of_le_length (Nat.le_of_lt hi)]
      exact ih hb
    · have hlt := (List.getElem?_eq_some_iff.1 hb).1
      obtain rfl : i = blocks.length := by
        rw [List.length_append, List.length_singleton] at hlt
        omega
      rw [List.getElem?_concat_length] at hb
      cases hb
      rwa [List.take_left']
      rfl

/-- A block is linked to the one before it. -/
theorem Chained.previousHash {blocks : List RawBlock} (h : Chained blocks) {i : Nat}
    {a b : RawBlock} (ha : blocks[i]? = some a) (hb : blocks[i + 1]? = some b) :
    b.previousHash = a.hash := by
  rw [(h.continues hb).previousHash, List.take_add_one, ha, Option.toList_some,
    List.getLast?_concat]
  rfl

/-! ## Requests that were registered -/

/-- The pair that a call registers, if it is one that registers a request. -/
def Invocation.registers? (router : String) (i : Invocation) : Option StepKey :=
  if i.contract = router ∧ i.function = Contract.invoke then
    match i.args with
    | [_, _, transactionId, stepId, _, _] => some (.read transactionId stepId)
    | _ => none
  else none

theorem Invocation.registers?_of_ne {router : String} {i : Invocation}
    (h : i.contract = router → i.function ≠ Contract.invoke) : i.registers? router = none := by
  unfold registers?
  exact if_neg fun ⟨hcontract, hfunction⟩ => h hcontract hfunction

namespace Chain

/-- The pairs that the kept calls have registered. -/
def registrations (c : Chain) : List StepKey :=
  c.invocations.filterMap (Invocation.registers? c.router)

theorem registrations_noting (c : Chain) (i : Invocation) :
    (c.noting i).registrations = c.registrations ++ (i.registers? c.router).toList := by
  rw [registrations, noting, List.filterMap_append]
  cases h : i.registers? c.router <;> simp [registrations, h]

/-! ## What can become of a chain -/

/-- The contracts and the books of both chains are the same. -/
structure SameBooks (c c' : Chain) : Prop where
  router : c'.router = c.router
  proxy : c'.proxy = c.proxy
  blocks : c'.blocks = c.blocks
  requests : c'.requests = c.requests
  results : c'.results = c.results
  invocations : c'.invocations = c.invocations

/-- What can become of a chain when something is done to it: its books stay, it commits a
block, or a call succeeds and is kept. -/
inductive Becomes (c : Chain) : Chain → Prop where
  | stays {c' : Chain} (same : SameBooks c c') : Becomes c c'
  | commits (envelopes : List Envelope) : Becomes c (c.append envelopes).2
  | keeps {i : Invocation} {r : ContractResponse} {c' : Chain} (called : Called c i r c') :
    Becomes c (c'.noting i)

/-- A call fails and changes nothing but how many are to fail, or it succeeds and is kept. -/
theorem invoke_cases (i : Invocation) (c : Chain) :
    (∃ e n, (invoke i).perform c = (.error e, c.failInvokes n)) ∨
      ∃ r c', Called c i r c' ∧ (invoke i).perform c = (.ok r, c'.noting i) := by
  rw [invoke, perform_of]
  split
  · exact .inl ⟨_, _, rfl⟩
  · cases hcall : c.call i with
    | error e => exact .inl ⟨e, c.failingInvokes, rfl⟩
    | ok outcome =>
      obtain ⟨r, c'⟩ := outcome
      exact .inr ⟨r, c', called_of_call hcall, rfl⟩

/-- A query changes nothing but how many are to fail. -/
theorem query_state (chain : ChainId) (number : UInt64) (c : Chain) :
    ∃ n, ((query chain number).perform c).2 = c.failQueries n := by
  rw [query, perform_of]
  split
  · exact ⟨_, rfl⟩
  · split
    · exact ⟨c.failingQueries, rfl⟩
    · split <;> exact ⟨c.failingQueries, rfl⟩

theorem make_becomes (chain : ChainId) (m : Move) (c : Chain) : Becomes c (m.make chain c) := by
  cases m with
  | append envelopes => exact .commits envelopes
  | query number =>
    obtain ⟨n, hstate⟩ := query_state chain number c
    rw [Move.make, hstate]
    exact .stays ⟨rfl, rfl, rfl, rfl, rfl, rfl⟩
  | invoke i =>
    rcases invoke_cases i c with ⟨e, n, hdone⟩ | ⟨r, c', hcalled, hdone⟩
    · rw [Move.make, hdone]
      exact .stays ⟨rfl, rfl, rfl, rfl, rfl, rfl⟩
    · rw [Move.make, hdone]
      exact .keeps hcalled
  | _ => exact .stays ⟨rfl, rfl, rfl, rfl, rfl, rfl⟩

/-! ## Books that are in order -/

/-- The books of a chain agree with each other: the blocks are linked, the requests are
those that were registered, each once, and the results are of such requests. -/
structure InOrder (c : Chain) : Prop where
  linked : Chained c.blocks
  once : c.registrations.Nodup
  registered (key : StepKey) : key ∈ c.registrations ↔ (c.requests.lookup key).isSome
  recorded {key : StepKey} {r : RecordedResult} : c.results.lookup key = some r →
    r.key = key ∧ key ∈ c.registrations

theorem inOrder_new (router proxy : String) : (new router proxy).InOrder where
  linked := .none
  once := List.nodup_nil
  registered key := by simp [registrations, new]
  recorded h := by cases h

theorem continues_nextBlock (c : Chain) (envelopes : List Envelope) :
    (c.nextBlock envelopes).Continues c.blocks where
  number := by
    rw [UInt64.ofNat_add]
    rfl
  previousHash := rfl
  origin := rfl
  dataHash := rfl
  hash := rfl

variable {c c' : Chain} {i : Invocation} {r : ContractResponse}

theorem InOrder.of_sameBooks (h : c.InOrder) (same : SameBooks c c') : c'.InOrder := by
  obtain ⟨hrouter, -, hblocks, hrequests, hresults, hinvocations⟩ := same
  have hregistrations : c'.registrations = c.registrations := by
    rw [registrations, registrations, hrouter, hinvocations]
  exact
    { linked := hblocks ▸ h.linked
      once := hregistrations ▸ h.once
      registered := fun key => by rw [hregistrations, hrequests, h.registered]
      recorded := fun hr => by
        rw [hregistrations]
        exact h.recorded (hresults ▸ hr) }

theorem InOrder.append (h : c.InOrder) (envelopes : List Envelope) :
    (c.append envelopes).2.InOrder where
  linked := h.linked.more (c.continues_nextBlock envelopes)
  once := h.once
  registered := h.registered
  recorded := h.recorded

theorem InOrder.registering {key : StepKey} (h : c.InOrder) (hnew : c.requests.lookup key = none)
    (hi : i.registers? c.router = some key) : ((c.registering key i.args).noting i).InOrder := by
  have hregistrations : ((c.registering key i.args).noting i).registrations
      = c.registrations ++ [key] := by
    rw [registrations_noting, router_registering, hi]
    rfl
  have hfresh : key ∉ c.registrations := by
    rw [h.registered, hnew]
    exact Bool.false_ne_true
  refine ⟨h.linked.more ((c.entered key i.args).continues_nextBlock _), ?_, fun key' => ?_, ?_⟩
  · rw [hregistrations]
    exact h.once.append (List.nodup_singleton key) (by simpa using hfresh)
  · rw [hregistrations, List.mem_append, List.mem_singleton, h.registered, or_comm]
    exact isSome_lookup_assign_iff.symm
  · intro key' r hr
    obtain ⟨hkey, hmem⟩ := h.recorded hr
    rw [hregistrations]
    exact ⟨hkey, List.mem_append_left _ hmem⟩

theorem InOrder.recording {r : RecordedResult} (h : c.InOrder)
    (hknown : (c.requests.lookup r.key).isSome) (hi : i.registers? c.router = none) :
    ((c.recording r).noting i).InOrder := by
  have hregistrations : ((c.recording r).noting i).registrations = c.registrations := by
    rw [registrations_noting]
    change c.registrations ++ (i.registers? c.router).toList = _
    rw [hi, Option.toList_none, List.append_nil]
  refine ⟨h.linked, hregistrations ▸ h.once, fun key => ?_, fun {key r'} hr => ?_⟩
  · rw [hregistrations]
    exact h.registered key
  · rw [hregistrations]
    change (assign r.key r c.results).lookup key = some r' at hr
    by_cases hkey : key = r.key
    · rw [hkey, lookup_assign_self] at hr
      cases hr
      exact ⟨hkey.symm, (h.registered key).2 (hkey ▸ hknown)⟩
    · rw [lookup_assign_of_ne hkey] at hr
      exact h.recorded hr

theorem InOrder.answering (h : c.InOrder) (hi : i.registers? c.router = none) :
    (c.noting i).InOrder := by
  have hregistrations : (c.noting i).registrations = c.registrations := by
    rw [registrations_noting, hi, Option.toList_none, List.append_nil]
  exact ⟨h.linked, hregistrations ▸ h.once, fun key => hregistrations ▸ h.registered key,
    fun hr => hregistrations ▸ h.recorded hr⟩

/-- A call that succeeds and is kept leaves the books in order. -/
theorem InOrder.noting (h : c.InOrder) (called : Called c i r c') : (c'.noting i).InOrder := by
  cases called with
  | registers hi hnew =>
    refine h.registering hnew ?_
    rw [hi]
    exact if_pos ⟨rfl, rfl⟩
  | records hi hknown =>
    refine h.recording hknown (Invocation.registers?_of_ne fun _ => ?_)
    rw [hi]
    exact (by decide : Contract.recordResult ≠ Contract.invoke)
  | answers hquery =>
    refine h.answering (Invocation.registers?_of_ne fun hcontract => ?_)
    rw [hquery hcontract]
    decide

/-- Whatever becomes of a chain, its books stay in order. -/
theorem InOrder.becomes (h : c.InOrder) (hc' : Becomes c c') : c'.InOrder := by
  cases hc' with
  | stays same => exact h.of_sameBooks same
  | commits envelopes => exact h.append envelopes
  | keeps called => exact h.noting called

theorem Becomes.contracts (h : Becomes c c') : c'.router = c.router ∧ c'.proxy = c.proxy := by
  cases h with
  | stays same => exact ⟨same.router, same.proxy⟩
  | commits envelopes => exact ⟨rfl, rfl⟩
  | keeps called => cases called <;> exact ⟨rfl, rfl⟩

theorem Becomes.blocks (h : Becomes c c') : c.blocks <+: c'.blocks := by
  cases h with
  | stays same => exact same.blocks ▸ List.prefix_rfl
  | commits envelopes => exact List.prefix_append _ _
  | keeps called => exact called.blocks

/-! ## Queries -/

/-- What a query is answered if it is not to fail. -/
theorem query_calm {n : UInt64} (h : ¬ 0 < c.failingQueries) (chain : ChainId) :
    ((query chain n).perform c).1
      = match n.toNat with
        | 0 => .error (.notFound chain n)
        | k + 1 =>
          match c.blocks[k]? with
          | some b => .ok b
          | none => .error (.notFound chain n) := by
  rw [query, perform_of, if_neg h]
  cases n.toNat with
  | zero => rfl
  | succ k =>
    dsimp only
    cases c.blocks[k]? <;> rfl

/-- There is no block with number zero, and none above the last. -/
theorem query_missing {n : UInt64} (h : ¬ 0 < c.failingQueries) (chain : ChainId)
    (hn : n.toNat = 0 ∨ c.blocks.length < n.toNat) :
    ((query chain n).perform c).1 = .error (.notFound chain n) := by
  rw [query_calm h]
  cases hk : n.toNat with
  | zero => rfl
  | succ k =>
    have hnone : c.blocks[k]? = none := List.getElem?_eq_none (by omega)
    dsimp only
    rw [hnone]

theorem query_failing {n : UInt64} (h : 0 < c.failingQueries) (chain : ChainId) :
    ((query chain n).perform c).1 = .error (.unavailable "injected query failure") := by
  rw [query, perform_of, if_pos h]

/-! ## Locks -/

/-- The chaincode is locked. -/
def Locked (name : String) (c : Chain) : Prop :=
  (c.locks.lookup name).isSome

theorem Called.locks (h : Called c i r c') : c'.locks = c.locks := by
  cases h <;> rfl

/-- A call does not keep itself. -/
theorem Called.invocations (h : Called c i r c') : c'.invocations = c.invocations := by
  cases h <;> rfl

/-- Chaincode stays locked until it is unlocked. -/
theorem make_locked {name : String} (chain : ChainId) {m : Move} (hm : m ≠ .unlock name)
    (h : c.Locked name) : (m.make chain c).Locked name := by
  cases m with
  | lock chaincode holder => exact isSome_lookup_assign holder h
  | unlock chaincode =>
    have hne : name ≠ chaincode := fun heq => hm (heq ▸ rfl)
    rw [Locked, Move.make, unlock, lookup_filter_of_ne hne]
    exact h
  | query number =>
    obtain ⟨n, hstate⟩ := query_state chain number c
    rw [Move.make, hstate]
    exact h
  | invoke i =>
    rcases invoke_cases i c with ⟨e, n, hdone⟩ | ⟨r, c', hcalled, hdone⟩
    · rw [Move.make, hdone]
      exact h
    · rw [Move.make, hdone]
      rw [Locked, ← hcalled.locks] at h
      exact h
  | _ => exact h

/-- The proxy contract refuses to call chaincode that is locked. -/
theorem callProxy_of_locked {nameBytes : Bytes} (h : c.Locked (Utf8.decodeLossy nameBytes))
    (function : String) (rest : List Bytes) :
    ∃ e, c.callProxy function (nameBytes :: rest) = .error e := by
  obtain ⟨holder, hholder⟩ := Option.isSome_iff_exists.1 h
  unfold callProxy
  split
  · exact ⟨_, rfl⟩
  · split
    · rename_i heq
      cases heq
      dsimp only
      rw [hholder]
      exact ⟨_, rfl⟩
    · exact ⟨_, rfl⟩

/-- What the proxy contract answers does not depend on chaincode that is locked. -/
theorem callProxy_deploy {name : String} (h : c.Locked name) (code : Chaincode) (function : String)
    (args : List Bytes) :
    (c.deploy name code).callProxy function args = c.callProxy function args := by
  obtain ⟨holder, hholder⟩ := Option.isSome_iff_exists.1 h
  unfold callProxy
  split
  · rfl
  · split
    · rename_i nameBytes inner arguments
      dsimp only [deploy]
      by_cases hname : Utf8.decodeLossy nameBytes = name
      · rw [hname, hholder]
      · rw [lookup_assign_of_ne hname]
    · rfl

theorem register_deploy (name : String) (code : Chaincode) (key : StepKey) (args : List Bytes) :
    ((c.deploy name code).register key args).map Prod.fst = (c.register key args).map Prod.fst := by
  by_cases h : (c.requests.lookup key).isSome
  · have h' : ((c.deploy name code).requests.lookup key).isSome := h
    rw [register, register, if_pos h, if_pos h']
  · have h' : ¬ ((c.deploy name code).requests.lookup key).isSome := h
    rw [register, register, if_neg h, if_neg h']
    rfl

theorem record_deploy (name : String) (code : Chaincode) (r : RecordedResult) :
    ((c.deploy name code).record r).map Prod.fst = (c.record r).map Prod.fst := by
  by_cases h : (c.requests.lookup r.key).isSome
  · have h' : ((c.deploy name code).requests.lookup r.key).isSome := h
    rw [record, record, if_pos h, if_pos h']
    rfl
  · have h' : ¬ ((c.deploy name code).requests.lookup r.key).isSome := h
    rw [record, record, if_neg h, if_neg h']

/-- What the routing contract answers does not depend on chaincode. -/
theorem callRouter_deploy (name : String) (code : Chaincode) (function : String)
    (args : List Bytes) :
    ((c.deploy name code).callRouter function args).map Prod.fst
      = (c.callRouter function args).map Prod.fst := by
  unfold callRouter
  dsimp only
  split
  · split
    · exact register_deploy name code _ _
    · rfl
  · split
    · split
      · exact record_deploy name code _
      · rfl
    · split
      · split
        · simp only [deploy]
          split <;> rfl
        · rfl
      · rfl

theorem invoke_calm (h : ¬ 0 < c.failingInvokes) :
    ((invoke i).perform c).1 = (c.call i).map Prod.fst := by
  rw [invoke, perform_of, if_neg h]
  cases c.call i <;> rfl

/-- A call that asks the proxy contract for chaincode that is locked is refused, also when
the name is that of the routing contract, which has no such function. -/
theorem invoke_of_locked {nameBytes : Bytes} (h : c.Locked (Utf8.decodeLossy nameBytes))
    (rest : List Bytes) :
    ∃ e, ((invoke ⟨c.proxy, Contract.proxyCall, nameBytes :: rest⟩).perform c).1 = .error e := by
  have hfunction : Contract.proxyCall ∉ routerFunctions := by decide
  by_cases hfailing : 0 < c.failingInvokes
  · exact ⟨_, invoke_of_failing hfailing _⟩
  · rw [invoke_calm hfailing, call]
    split
    · rw [callRouter_wrongFunction hfunction]
      exact ⟨_, rfl⟩
    · rw [if_pos rfl]
      obtain ⟨e, he⟩ := callProxy_of_locked h Contract.proxyCall rest
      rw [he]
      exact ⟨e, rfl⟩

/-- A call of the proxy contract is answered alike whatever the chaincode that is locked
would do. -/
theorem invoke_deploy {name : String} (h : c.Locked name) (hi : i.contract = c.proxy)
    (code : Chaincode) :
    ((invoke i).perform (c.deploy name code)).1 = ((invoke i).perform c).1 := by
  have hcall : ((c.deploy name code).call i).map Prod.fst = (c.call i).map Prod.fst := by
    by_cases hrouter : i.contract = c.router
    · have hrouter' : i.contract = (c.deploy name code).router := hrouter
      rw [call, call, if_pos hrouter, if_pos hrouter']
      exact callRouter_deploy name code _ _
    · have hrouter' : ¬ i.contract = (c.deploy name code).router := hrouter
      have hi' : i.contract = (c.deploy name code).proxy := hi
      rw [call, call, if_neg hrouter, if_neg hrouter', if_pos hi, if_pos hi', callProxy_deploy h]
      cases c.callProxy i.function i.args <;> rfl
  by_cases hfailing : 0 < c.failingInvokes
  · have hfailing' : 0 < (c.deploy name code).failingInvokes := hfailing
    rw [invoke_of_failing hfailing, invoke_of_failing hfailing']
  · have hfailing' : ¬ 0 < (c.deploy name code).failingInvokes := hfailing
    rw [invoke_calm hfailing, invoke_calm hfailing', hcall]

end Chain

end RelayHub
