/-
A ledger in memory as it is seen from outside.

A chain that was hosted anew and is not hosted anew again has its books in order after
every run of moves, on this chain and on others. What can be read from them follows: a
block that is there is found from then on, a call that fails has changed nothing, and
one that succeeds is kept; and no chaincode runs through the proxy contract between being
locked and being unlocked.
-/
import RelayHub.Proofs.Ledger.Books

set_option autoImplicit false

namespace RelayHub

open RelayHub.Action

namespace MemoryLedger

/-! ## What is seen of a chain -/

/-- The books of a chain: blocks, requests, results and kept calls. -/
def books? (chain : ChainId) (l : MemoryLedger) :
    Option (List RawBlock × List (StepKey × List Bytes) × List (StepKey × RecordedResult) ×
      List Invocation) :=
  (l.chain? chain).map fun c => (c.blocks, c.requests, c.results, c.invocations)

/-- The calls that a chain has kept. -/
def invocations (chain : ChainId) (l : MemoryLedger) : List Invocation :=
  ((l.chain? chain).map Chain.invocations).getD []

/-- The pairs that the kept calls have registered with a routing contract. -/
def registrations (chain : ChainId) (router : String) (l : MemoryLedger) : List StepKey :=
  (l.invocations chain).filterMap (Invocation.registers? router)

/-- The next query on a chain is to fail. -/
def FailingQuery (chain : ChainId) : MemoryLedger → Prop :=
  Hosts chain fun c => 0 < c.failingQueries

/-- A query on a chain is answered like this, unless it is to fail. -/
structure Finds (chain : ChainId) (n : UInt64) (answer : Except LedgerError RawBlock)
    (l : MemoryLedger) : Prop where
  calm : ¬ l.FailingQuery chain → ((ledger.query chain n).perform l).1 = answer
  failing : l.FailingQuery chain →
    ((ledger.query chain n).perform l).1 = .error (.unavailable "injected query failure")

/-- Chaincode that does not run through a proxy contract: a call that names it is refused,
and no call is answered otherwise if the chaincode is replaced. -/
structure Withheld (chain : ChainId) (proxy name : String) (l : MemoryLedger) : Prop where
  refused {nameBytes : Bytes} (rest : List Bytes) : Utf8.decodeLossy nameBytes = name →
    ∃ e, ((ledger.invoke chain ⟨proxy, Contract.proxyCall, nameBytes :: rest⟩).perform l).1
      = .error e
  ignored {call : Invocation} (code : Chaincode) : call.contract = proxy →
    ((ledger.invoke chain call).perform ((Move.onChain chain (.deploy name code)).make l)).1
      = ((ledger.invoke chain call).perform l).1

/-- A chain with these contracts is in order, and will be: its blocks are numbered, linked by
hash and kept; pairs are registered once, and results recorded for registered pairs; a call
that fails changes no books, and one that succeeds is kept; and chaincode is withheld from
when it is locked until it is unlocked. -/
structure InOrder (chain : ChainId) (router proxy : String) (l : MemoryLedger) : Prop where
  continues {i : Nat} {b : RawBlock} : (l.blocks chain)[i]? = some b →
    b.Continues ((l.blocks chain).take i)
  number {i : Nat} {b : RawBlock} : (l.blocks chain)[i]? = some b →
    b.number = UInt64.ofNat (i + 1)
  first {b : RawBlock} : (l.blocks chain)[0]? = some b → b.previousHash = ""
  linked {i : Nat} {a b : RawBlock} : (l.blocks chain)[i]? = some a →
    (l.blocks chain)[i + 1]? = some b → b.previousHash = a.hash
  found {n : UInt64} {i : Nat} {b : RawBlock} : n.toNat = i + 1 →
    (l.blocks chain)[i]? = some b → ∀ later : List Move,
    (∀ m ∈ later, m.Within chain fun _ => True) → (run later l).Finds chain n (.ok b)
  missing {n : UInt64} : n.toNat = 0 ∨ (l.blocks chain).length < n.toNat →
    l.Finds chain n (.error (.notFound chain n))
  once : (l.registrations chain router).Nodup
  registered {key : StepKey} :
    key ∈ l.registrations chain router ↔ l.Registered chain router key
  recorded {key : StepKey} {r : RecordedResult} : l.recorded? chain key = some r →
    r.key = key ∧ l.Registered chain router key
  failed {call : Invocation} {e : LedgerError} {l' : MemoryLedger} :
    (ledger.invoke chain call).perform l = (.error e, l') → l'.books? chain = l.books? chain
  kept {call : Invocation} {r : ContractResponse} {l' : MemoryLedger} :
    (ledger.invoke chain call).perform l = (.ok r, l') →
    l'.invocations chain = l.invocations chain ++ [call]
  withheld {name holder : String} (later : List Move) :
    (∀ m ∈ later, m.Within chain (· ≠ .unlock name)) →
    (run (.onChain chain (.lock name holder) :: later) l).Withheld chain proxy name

variable {chain : ChainId} {router proxy name : String} {l : MemoryLedger} {c : Chain}

/-! ## Queries -/

theorem failingQuery_iff (h : l.chain? chain = some c) :
    l.FailingQuery chain ↔ 0 < c.failingQueries := by
  constructor
  · rintro ⟨c', hc', hfailing⟩
    obtain rfl := Option.some.inj (h.symm.trans hc')
    exact hfailing
  · exact fun hfailing => ⟨c, h, hfailing⟩

theorem finds_of_query (h : l.chain? chain = some c) {n : UInt64}
    {answer : Except LedgerError RawBlock}
    (hquery : ¬ 0 < c.failingQueries → ((Chain.query chain n).perform c).1 = answer) :
    l.Finds chain n answer := by
  have hperform : ((ledger.query chain n).perform l).1 = ((Chain.query chain n).perform c).1 :=
    congrArg Prod.fst (onChain_perform h _)
  refine ⟨fun hcalm => ?_, fun hfailing => ?_⟩
  · rw [hperform]
    exact hquery ((failingQuery_iff h).not.1 hcalm)
  · rw [hperform]
    exact Chain.query_failing ((failingQuery_iff h).1 hfailing) chain

theorem Hosts.finds_block {n : UInt64} {i : Nat} {b : RawBlock} (hn : n.toNat = i + 1)
    (h : l.Hosts chain fun c => c.blocks[i]? = some b) : l.Finds chain n (.ok b) := by
  obtain ⟨c, hc, hb⟩ := h
  refine finds_of_query hc fun hcalm => ?_
  rw [Chain.query_calm hcalm, hn]
  dsimp only
  rw [hb]

/-- A block stays where it is. -/
theorem Hosts.block_after {i : Nat} {b : RawBlock} {later : List Move}
    (h : l.Hosts chain fun c => c.blocks[i]? = some b)
    (hlater : ∀ m ∈ later, m.Within chain fun _ => True) :
    (run later l).Hosts chain fun c => c.blocks[i]? = some b := by
  refine Hosts.after (fun m c _ hb => ?_) hlater h
  obtain ⟨more, hmore⟩ := (Chain.make_becomes chain m c).blocks
  rw [← hmore, List.getElem?_append_left (List.getElem?_eq_some_iff.1 hb).1]
  exact hb

/-! ## Calls -/

theorem books?_of_chain? (h : l.chain? chain = some c) :
    l.books? chain = some (c.blocks, c.requests, c.results, c.invocations) := by
  rw [books?, h]
  rfl

theorem invocations_of_chain? (h : l.chain? chain = some c) :
    l.invocations chain = c.invocations := by
  rw [invocations, h]
  rfl

theorem registrations_of_chain? (h : l.chain? chain = some c) :
    l.registrations chain c.router = c.registrations := by
  rw [registrations, invocations_of_chain? h]
  rfl

theorem registered_iff (h : l.chain? chain = some c) (key : StepKey) :
    l.Registered chain c.router key ↔ (c.requests.lookup key).isSome := by
  constructor
  · rintro ⟨c', hc', -, hkey⟩
    obtain rfl := Option.some.inj (h.symm.trans hc')
    exact hkey
  · exact fun hkey => ⟨c, h, rfl, hkey⟩

theorem books?_of_invoke_error {call : Invocation} {e : LedgerError} {l' : MemoryLedger}
    (h : l.chain? chain = some c) (hcall : (ledger.invoke chain call).perform l = (.error e, l')) :
    l'.books? chain = l.books? chain := by
  rw [invoke_perform h] at hcall
  obtain ⟨hanswer, rfl⟩ := Prod.mk.inj hcall
  rw [books?_of_chain? h, books?_of_chain? (chain?_set _ _ _)]
  rcases Chain.invoke_cases call c with ⟨e', n, hdone⟩ | ⟨r, c', -, hdone⟩
  · rw [hdone]
    rfl
  · rw [hdone] at hanswer
    cases hanswer

theorem invocations_of_invoke_ok {call : Invocation} {r : ContractResponse} {l' : MemoryLedger}
    (h : l.chain? chain = some c) (hcall : (ledger.invoke chain call).perform l = (.ok r, l')) :
    l'.invocations chain = l.invocations chain ++ [call] := by
  rw [invoke_perform h] at hcall
  obtain ⟨hanswer, rfl⟩ := Prod.mk.inj hcall
  rw [invocations_of_chain? h, invocations_of_chain? (chain?_set _ _ _)]
  rcases Chain.invoke_cases call c with ⟨e, n, hdone⟩ | ⟨r', c', hcalled, hdone⟩
  · rw [hdone] at hanswer
    cases hanswer
  · rw [hdone, ← hcalled.invocations]
    rfl

/-! ## Locks -/

theorem Hosts.withheld (h : l.Hosts chain fun c => c.proxy = proxy ∧ c.Locked name) :
    l.Withheld chain proxy name := by
  obtain ⟨c, hc, rfl, hlocked⟩ := h
  refine ⟨fun {nameBytes} rest hname => ?_, fun {call} code hcontract => ?_⟩
  · rw [invoke_perform hc]
    exact Chain.invoke_of_locked (hname ▸ hlocked) rest
  · rw [make_onChain hc, invoke_perform hc, invoke_perform (chain?_set _ _ _)]
    exact Chain.invoke_deploy hlocked hcontract code

/-- From when it is locked until it is unlocked, chaincode is withheld. -/
theorem Hosts.withheld_after_lock {holder : String} {later : List Move}
    (h : l.Hosts chain fun c => c.proxy = proxy)
    (hlater : ∀ m ∈ later, m.Within chain (· ≠ .unlock name)) :
    (run (.onChain chain (.lock name holder) :: later) l).Withheld chain proxy name := by
  obtain ⟨c, hc, hproxy⟩ := h
  have hlocked : (c.lock name holder).Locked name := by
    rw [Chain.Locked, Chain.lock, lookup_assign_self]
    rfl
  have hstart : ((Move.onChain chain (.lock name holder)).make l).Hosts chain
      fun c => c.proxy = proxy ∧ c.Locked name := by
    rw [make_onChain hc]
    exact ⟨_, chain?_set _ _ _, hproxy, hlocked⟩
  refine (hstart.after (fun m c hm hkept => ?_) hlater).withheld
  exact ⟨(Chain.make_becomes chain m c).contracts.2.trans hkept.1,
    Chain.make_locked chain hm hkept.2⟩

/-! ## All of it -/

/-- What is kept of a chain with these contracts. -/
def Kept (chain : ChainId) (router proxy : String) : MemoryLedger → Prop :=
  Hosts chain fun c => c.router = router ∧ c.proxy = proxy ∧ c.InOrder

theorem Kept.addChain (chain : ChainId) (router proxy : String) (l : MemoryLedger) :
    (l.addChain chain router proxy).Kept chain router proxy :=
  ⟨_, chain?_set _ _ _, rfl, rfl, Chain.inOrder_new router proxy⟩

theorem Kept.after {moves : List Move} (h : l.Kept chain router proxy)
    (hmoves : ∀ m ∈ moves, m.Within chain fun _ => True) :
    (run moves l).Kept chain router proxy := by
  refine Hosts.after (fun m c _ hc => ?_) hmoves h
  have hbecomes := Chain.make_becomes chain m c
  obtain ⟨hrouter, hproxy, horder⟩ := hc
  exact ⟨hbecomes.contracts.1.trans hrouter, hbecomes.contracts.2.trans hproxy,
    horder.becomes hbecomes⟩

theorem Kept.inOrder (h : l.Kept chain router proxy) : l.InOrder chain router proxy := by
  obtain ⟨c, hc, rfl, rfl, horder⟩ := h
  have hblocks : l.blocks chain = c.blocks := by rw [blocks, hc]; rfl
  exact
    { continues := fun hb => by
        rw [hblocks] at hb ⊢
        exact horder.linked.continues hb
      number := fun {i b} hb => by
        rw [hblocks] at hb
        have hlength : (c.blocks.take i).length = i :=
          List.length_take_of_le (Nat.le_of_lt (List.getElem?_eq_some_iff.1 hb).1)
        rw [(horder.linked.continues hb).number, hlength]
      first := fun hb => by
        rw [hblocks] at hb
        rw [(horder.linked.continues hb).previousHash]
        rfl
      linked := fun ha hb => by
        rw [hblocks] at ha hb
        exact horder.linked.previousHash ha hb
      found := fun hn hb later hlater => by
        rw [hblocks] at hb
        have hhosts : l.Hosts chain fun c => c.blocks[_]? = some _ := ⟨c, hc, hb⟩
        exact (hhosts.block_after hlater).finds_block hn
      missing := fun hn => by
        rw [hblocks] at hn
        exact finds_of_query hc fun hcalm => Chain.query_missing hcalm chain hn
      once := by
        rw [registrations_of_chain? hc]
        exact horder.once
      registered := fun {key} => by
        rw [registrations_of_chain? hc, registered_iff hc]
        exact horder.registered key
      recorded := fun {key r} hr => by
        rw [recorded?, hc] at hr
        obtain ⟨hkey, hregistered⟩ := horder.recorded hr
        exact ⟨hkey, (registered_iff hc key).2 ((horder.registered key).1 hregistered)⟩
      failed := books?_of_invoke_error hc
      kept := invocations_of_invoke_ok hc
      withheld := fun later hlater => Hosts.withheld_after_lock ⟨c, hc, rfl⟩ hlater }

/-- A chain that is hosted is in order whatever is done then, to it and to other chains, as
long as it is not hosted anew. -/
theorem hosted_chain_in_order {moves : List Move} (chain : ChainId) (router proxy : String)
    (l : MemoryLedger) (hmoves : ∀ m ∈ moves, m.Within chain fun _ => True) :
    (run moves (l.addChain chain router proxy)).InOrder chain router proxy :=
  ((Kept.addChain chain router proxy l).after hmoves).inOrder

/-- Some of what can be done to a chain. -/
def movesOnOne : List Move :=
  [.onChain ⟨"A"⟩ (.append []), .onChain ⟨"A"⟩ (.invoke registeringCall),
   .onChain ⟨"A"⟩ (.invoke registeringCall), .onChain ⟨"A"⟩ (.failQueries 1),
   .onChain ⟨"A"⟩ (.query 1), .onChain ⟨"A"⟩ (.lock "fabcar" "tx")]

/-- The chain has two blocks then, and has registered one request. -/
theorem hosted_chain_in_order_movesOnOne :
    (∀ m ∈ movesOnOne, m.Within ⟨"A"⟩ fun _ => True) ∧
      (run movesOnOne ledgerOfOne).InOrder ⟨"A"⟩ "router" "proxy" ∧
      ((run movesOnOne ledgerOfOne).blocks ⟨"A"⟩).map RawBlock.number = [1, 2] ∧
      (run movesOnOne ledgerOfOne).registrations ⟨"A"⟩ "router" = [⟨"tx", "0"⟩] := by
  have hmoves : ∀ m ∈ movesOnOne, m.Within ⟨"A"⟩ fun _ => True := by
    simp [movesOnOne, Move.Within]
  exact ⟨hmoves, hosted_chain_in_order ⟨"A"⟩ "router" "proxy" empty hmoves, rfl, rfl⟩

end MemoryLedger

end RelayHub
