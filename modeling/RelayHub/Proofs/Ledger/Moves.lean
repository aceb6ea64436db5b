/-
What can be done to a ledger in memory, and what of it lasts.

A chain's contracts keep their names whatever is done to it, a request that is
registered stays so, and a result is only ever replaced by another of the same pair.
A run makes moves one after another, and a chain that is hosted stays hosted; only
hosting it anew forgets what it held.
-/
import RelayHub.Proofs.Ledger.Memory

set_option autoImplicit false

namespace RelayHub

open RelayHub.Action

/-! ## Values by key -/

section Assign

variable {κ ν : Type} [DecidableEq κ]

@[simp] theorem lookup_assign_self (key : κ) (value : ν) (pairs : List (κ × ν)) :
    (assign key value pairs).lookup key = some value := by
  simp [assign]

/-- What is taken out for a key leaves the other keys their values. -/
theorem lookup_filter_of_ne {key key' : κ} (h : key' ≠ key) (pairs : List (κ × ν)) :
    (pairs.filter fun e => e.1 ≠ key).lookup key' = pairs.lookup key' := by
  have hne : (key' == key) = false := beq_eq_false_iff_ne.2 h
  induction pairs with
  | nil => rfl
  | cons pair pairs ih =>
    by_cases hpair : pair.1 = key
    · have hother : (key' == pair.1) = false := by rw [hpair, hne]
      rw [List.filter_cons_of_neg (by simpa using hpair), List.lookup_cons, hother]
      exact ih
    · rw [List.filter_cons_of_pos (by simpa using hpair), List.lookup_cons, List.lookup_cons]
      cases key' == pair.1
      · exact ih
      · rfl

theorem lookup_assign_of_ne {key key' : κ} (h : key' ≠ key) (value : ν) (pairs : List (κ × ν)) :
    (assign key value pairs).lookup key' = pairs.lookup key' := by
  have hne : (key' == key) = false := beq_eq_false_iff_ne.2 h
  rw [assign, List.lookup_cons, hne]
  exact lookup_filter_of_ne h pairs

/-- Besides the key that is assigned to, those have a value that had one. -/
theorem isSome_lookup_assign_iff {key key' : κ} {value : ν} {pairs : List (κ × ν)} :
    ((assign key value pairs).lookup key').isSome ↔ key' = key ∨ (pairs.lookup key').isSome := by
  by_cases heq : key' = key
  · simp [heq]
  · simp [heq, lookup_assign_of_ne heq]

/-- A key that has a value has one whatever is assigned. -/
theorem isSome_lookup_assign {key key' : κ} {pairs : List (κ × ν)} (value : ν)
    (h : (pairs.lookup key').isSome) : ((assign key value pairs).lookup key').isSome :=
  isSome_lookup_assign_iff.2 (.inr h)

end Assign

/-! ## Moves on a chain -/

namespace Chain

/-- What can be done to a chain. -/
inductive Move where
  | deploy (name : String) (code : Chaincode)
  | lock (chaincode holder : String)
  | unlock (chaincode : String)
  | append (envelopes : List Envelope)
  | failQueries (n : Nat)
  | failInvokes (n : Nat)
  | query (number : UInt64)
  | invoke (call : Invocation)

/-- The chain, hosted under this name, that a move leaves. -/
def Move.make (chain : ChainId) : Move → Chain → Chain
  | deploy name code, c => c.deploy name code
  | lock chaincode holder, c => c.lock chaincode holder
  | unlock chaincode, c => c.unlock chaincode
  | append envelopes, c => (c.append envelopes).2
  | failQueries n, c => c.failQueries n
  | failInvokes n, c => c.failInvokes n
  | query number, c => ((Chain.query chain number).perform c).2
  | invoke call, c => ((Chain.invoke call).perform c).2

/-- The move records a result for a pair with this routing contract. -/
def Move.Records (router : String) (key : StepKey) (m : Move) : Prop :=
  ∃ origin destination transactionId stepId payload signer message,
    m = invoke ⟨router, Contract.recordResult,
      [origin, destination, transactionId, stepId, payload, signer, message]⟩ ∧
    StepKey.read transactionId stepId = key

/-- The routing contract holds the same in both chains. -/
structure SameContract (c c' : Chain) : Prop where
  router : c'.router = c.router
  requests : c'.requests = c.requests
  results : c'.results = c.results

theorem SameContract.refl (c : Chain) : SameContract c c := ⟨rfl, rfl, rfl⟩

/-- Only a call that succeeds changes what the routing contract holds. -/
theorem sameContract_or_called (chain : ChainId) (m : Move) (c : Chain) :
    SameContract c (m.make chain c) ∨
      ∃ i r c', m = .invoke i ∧ Called c i r c' ∧ SameContract c' (m.make chain c) := by
  cases m with
  | query number =>
    left
    rw [Move.make, query, perform_of]
    split
    · exact ⟨rfl, rfl, rfl⟩
    · split
      · exact .refl c
      · split <;> exact .refl c
  | invoke i =>
    rw [Move.make, invoke, perform_of]
    split
    · exact .inl ⟨rfl, rfl, rfl⟩
    · cases hcall : c.call i with
      | error e => exact .inl (.refl c)
      | ok outcome =>
        obtain ⟨r, c'⟩ := outcome
        exact .inr ⟨i, r, c', rfl, called_of_call hcall, rfl, rfl, rfl⟩
  | _ => exact .inl ⟨rfl, rfl, rfl⟩

variable {c c' : Chain} {i : Invocation} {r : ContractResponse} {key : StepKey}

theorem Called.router (h : Called c i r c') : c'.router = c.router := by
  cases h <;> rfl

theorem Called.registered (h : Called c i r c') (hkey : (c.requests.lookup key).isSome) :
    (c'.requests.lookup key).isSome := by
  cases h with
  | registers _ _ => exact isSome_lookup_assign _ hkey
  | records _ _ => exact hkey
  | answers _ => exact hkey

/-- A recorded result stays, unless the call records another for the pair. -/
theorem Called.recorded (h : Called c i r c') {result : RecordedResult}
    (hresult : c.results.lookup key = some result) :
    c'.results.lookup key = some result ∨
      (Move.invoke i).Records c.router key ∧ ∃ newer, c'.results.lookup key = some newer := by
  cases h with
  | registers _ _ => exact .inl hresult
  | @records origin destination transactionId stepId payload signer message hi _ =>
    by_cases hkey : key = .read transactionId stepId
    · subst hkey
      exact .inr ⟨⟨origin, destination, transactionId, stepId, payload, signer, message,
        congrArg Move.invoke hi, rfl⟩, _, lookup_assign_self _ _ _⟩
    · exact .inl ((lookup_assign_of_ne hkey _ _).trans hresult)
  | answers _ => exact .inl hresult

theorem make_router (chain : ChainId) (m : Move) (c : Chain) :
    (m.make chain c).router = c.router := by
  rcases sameContract_or_called chain m c with h | ⟨i, r, c', _, hcalled, h⟩
  · exact h.router
  · exact h.router.trans hcalled.router

/-- A request that is registered stays so. -/
theorem make_registered (chain : ChainId) (m : Move) (h : (c.requests.lookup key).isSome) :
    ((m.make chain c).requests.lookup key).isSome := by
  rcases sameContract_or_called chain m c with hsame | ⟨i, r, c', _, hcalled, hsame⟩
  · rwa [hsame.requests]
  · rw [hsame.requests]
    exact hcalled.registered h

theorem make_recorded (chain : ChainId) (m : Move) {result : RecordedResult}
    (h : c.results.lookup key = some result) :
    (m.make chain c).results.lookup key = some result ∨
      m.Records c.router key ∧ ∃ newer, (m.make chain c).results.lookup key = some newer := by
  rcases sameContract_or_called chain m c with hsame | ⟨i, r, c', rfl, hcalled, hsame⟩
  · exact .inl (by rw [hsame.results, h])
  · rw [hsame.results]
    exact hcalled.recorded h

end Chain

/-! ## Moves on a ledger -/

namespace MemoryLedger

/-- What can be done to a ledger: a chain is hosted, also in place of one with the same
name, or something is done to a chain. -/
inductive Move where
  | addChain (chain : ChainId) (router proxy : String)
  | onChain (chain : ChainId) (move : Chain.Move)

/-- The ledger that a move leaves. -/
def Move.make : Move → MemoryLedger → MemoryLedger
  | addChain chain router proxy, l => l.addChain chain router proxy
  | onChain chain (.deploy name code), l => ((change chain (·.deploy name code)).perform l).2
  | onChain chain (.lock chaincode holder), l =>
    ((change chain (·.lock chaincode holder)).perform l).2
  | onChain chain (.unlock chaincode), l => ((change chain (·.unlock chaincode)).perform l).2
  | onChain chain (.append envelopes), l => ((append chain envelopes).perform l).2
  | onChain chain (.failQueries n), l => ((change chain (·.failQueries n)).perform l).2
  | onChain chain (.failInvokes n), l => ((change chain (·.failInvokes n)).perform l).2
  | onChain chain (.query number), l => ((ledger.query chain number).perform l).2
  | onChain chain (.invoke call), l => ((ledger.invoke chain call).perform l).2

/-- The ledger after some moves. -/
def run (moves : List Move) (l : MemoryLedger) : MemoryLedger :=
  moves.foldl (fun l m => m.make l) l

/-- The move does to this chain only what is allowed, and does not host it anew. -/
def Move.Within (chain : ChainId) (allowed : Chain.Move → Prop) : Move → Prop
  | addChain chain' _ _ => chain' ≠ chain
  | onChain chain' m => chain' = chain → allowed m

/-- The ledger hosts a chain, and this holds of it. -/
def Hosts (chain : ChainId) (P : Chain → Prop) (l : MemoryLedger) : Prop :=
  ∃ c, l.chain? chain = some c ∧ P c

theorem chain?_set_of_ne {chain chain' : ChainId} (h : chain ≠ chain') (l : MemoryLedger)
    (c : Chain) : (l.set chain' c).chain? chain = l.chain? chain :=
  lookup_assign_of_ne h c l.chains

/-- A move on a chain does to that chain what the move is. -/
theorem make_onChain {chain : ChainId} {l : MemoryLedger} {c : Chain}
    (h : l.chain? chain = some c) (m : Chain.Move) :
    (Move.onChain chain m).make l = l.set chain (m.make chain c) := by
  cases m <;> exact congrArg Prod.snd (onChain_perform h _)

theorem make_onChain_of_none {chain : ChainId} {l : MemoryLedger} (h : l.chain? chain = none)
    (m : Chain.Move) : (Move.onChain chain m).make l = l := by
  have hnone {α : Type} (a : Action Chain LedgerError α) :
      ((MemoryLedger.onChain chain a).perform l).2 = l := by
    rw [onChain, perform_of, h]
  cases m <;> exact hnone _

section Runs

variable {chain : ChainId} {allowed : Chain.Move → Prop} {P : Chain → Prop} {l : MemoryLedger}

theorem Hosts.make (hkeeps : ∀ m c, allowed m → P c → P (m.make chain c))
    (h : l.Hosts chain P) {m : Move} (hm : m.Within chain allowed) : (m.make l).Hosts chain P := by
  obtain ⟨c, hc, hP⟩ := h
  cases m with
  | addChain chain' router proxy => exact ⟨c, (chain?_set_of_ne (Ne.symm hm) _ _).trans hc, hP⟩
  | onChain chain' m =>
    by_cases hchain : chain' = chain
    · subst hchain
      rw [make_onChain hc]
      exact ⟨_, chain?_set _ _ _, hkeeps m c (hm rfl) hP⟩
    · cases hc' : l.chain? chain' with
      | none =>
        rw [make_onChain_of_none hc']
        exact ⟨c, hc, hP⟩
      | some c' =>
        rw [make_onChain hc']
        exact ⟨c, (chain?_set_of_ne (Ne.symm hchain) _ _).trans hc, hP⟩

/-- What the allowed moves keep of a chain is kept by every run of them. -/
theorem Hosts.after (hkeeps : ∀ m c, allowed m → P c → P (m.make chain c)) {moves : List Move}
    (hmoves : ∀ m ∈ moves, m.Within chain allowed) (h : l.Hosts chain P) :
    (run moves l).Hosts chain P := by
  induction moves generalizing l with
  | nil => exact h
  | cons m moves ih =>
    obtain ⟨hm, hmoves⟩ := List.forall_mem_cons.1 hmoves
    exact ih hmoves (h.make hkeeps hm)

end Runs

end MemoryLedger

end RelayHub
