/-
The ledger in memory only grows.

A call that succeeds registers a request, or records a result, or leaves the chain
as it is but for the answer; there is no fourth case. So a chain commits blocks
behind those it has and never takes one back, and it answers a query with the block
at the place that the number says, or fails. Its routing contract refuses every
function but its own, and the chain then stays such that it refuses the next such
call as well.
-/
import RelayHub.Ledger.Memory
import RelayHub.Proofs.Action
import RelayHub.Proofs.Text.Utf8

set_option autoImplicit false

namespace RelayHub

open RelayHub.Action

/-! ## Calls -/

/-- The pair that two arguments name. -/
def StepKey.read (transactionId stepId : Bytes) : StepKey :=
  ⟨Utf8.decodeLossy transactionId, Utf8.decodeLossy stepId⟩

@[simp] theorem StepKey.read_encode (transactionId stepId : String) :
    read (Utf8.encode transactionId) (Utf8.encode stepId) = ⟨transactionId, stepId⟩ := by
  rw [read, Utf8.decodeLossy_encode, Utf8.decodeLossy_encode]

/-- The result that seven arguments describe. -/
def RecordedResult.read (origin destination transactionId stepId payload signer message : Bytes) :
    RecordedResult where
  origin := Utf8.decodeLossy origin
  destination := Utf8.decodeLossy destination
  key := .read transactionId stepId
  payload := Utf8.decodeLossy payload
  signer := Hex.encode signer
  message := Utf8.decodeLossy message

namespace Chain

/-- A chain whose routing contract has just entered a request; its block is still to come. -/
def entered (c : Chain) (key : StepKey) (args : List Bytes) : Chain :=
  { c with requests := assign key args c.requests, registered := c.registered + 1 }

/-- A chain that has registered a request in a block of its own. -/
def registering (c : Chain) (key : StepKey) (args : List Bytes) : Chain :=
  ((c.entered key args).append [(c.entered key args).requestEnvelope key args]).2

/-- A chain that has recorded a result. -/
def recording (c : Chain) (r : RecordedResult) : Chain :=
  { c with results := assign r.key r c.results }

/-- What a call that succeeds answers, and the chain it leaves. One that leaves the chain
as it is asks the routing contract for a result, or is a call of another contract. -/
inductive Called (c : Chain) (i : Invocation) : ContractResponse → Chain → Prop
  | registers {origin destination transactionId stepId payload signer : Bytes} :
      i = ⟨c.router, Contract.invoke,
        [origin, destination, transactionId, stepId, payload, signer]⟩ →
      c.requests.lookup (.read transactionId stepId) = none →
      Called c i (.ok (Utf8.encode (Utf8.decodeLossy transactionId)))
        (c.registering (.read transactionId stepId) i.args)
  | records {origin destination transactionId stepId payload signer message : Bytes} :
      i = ⟨c.router, Contract.recordResult,
        [origin, destination, transactionId, stepId, payload, signer, message]⟩ →
      (c.requests.lookup (.read transactionId stepId)).isSome →
      Called c i (.ok [])
        (c.recording (.read origin destination transactionId stepId payload signer message))
  | answers {r : ContractResponse} :
      (i.contract = c.router → i.function = Contract.queryResult) → Called c i r c

theorem called_of_call {c c' : Chain} {i : Invocation} {r : ContractResponse}
    (h : c.call i = .ok (r, c')) : Called c i r c' := by
  have hother (hcontract : i.contract ≠ c.router) {answer : Except LedgerError ContractResponse}
      (h : (answer.map fun r => (r, c)) = .ok (r, c')) : Called c i r c' := by
    cases answer <;> cases h
    exact .answers fun hrouter => absurd hrouter hcontract
  unfold call at h
  split at h
  · obtain ⟨contract, function, args⟩ := i
    rename_i hcontract
    obtain rfl : contract = c.router := hcontract
    unfold callRouter at h
    dsimp only at h
    split at h
    · rename_i hfunction
      subst hfunction
      split at h
      · unfold register at h
        split at h
        · cases h
        · rename_i hnew
          cases h
          exact .registers rfl (Option.not_isSome_iff_eq_none.1 hnew)
      · cases h
    split at h
    · rename_i hfunction
      subst hfunction
      split at h
      · unfold record at h
        split at h
        · rename_i hknown
          cases h
          exact .records rfl hknown
        · cases h
      · cases h
    split at h
    · rename_i hfunction
      split at h
      · split at h <;> cases h <;> exact .answers fun _ => hfunction
      · cases h
    · cases h
  · split at h <;> exact hother ‹_› h

/-- A chain with a call behind those that were kept before. -/
def noting (c : Chain) (i : Invocation) : Chain :=
  { c with invocations := c.invocations ++ [i] }

@[simp] theorem noting_router (c : Chain) (i : Invocation) : (c.noting i).router = c.router := rfl

@[simp] theorem noting_blocks (c : Chain) (i : Invocation) : (c.noting i).blocks = c.blocks := rfl

@[simp] theorem noting_requests (c : Chain) (i : Invocation) :
    (c.noting i).requests = c.requests := rfl

theorem invoke_of_failing {c : Chain} (h : 0 < c.failingInvokes) (i : Invocation) :
    ((invoke i).perform c).1 = .error (.unavailable "injected invoke failure") := by
  rw [invoke, perform_of, if_pos h]

theorem invoke_of_call {c c' : Chain} {i : Invocation} {r : ContractResponse}
    (h : ¬ 0 < c.failingInvokes) (hcall : c.call i = .ok (r, c')) :
    (invoke i).perform c = (.ok r, c'.noting i) := by
  rw [invoke, perform_of, if_neg h, hcall]
  rfl

theorem of_invoke_ok {c : Chain} {i : Invocation} {r : ContractResponse}
    (h : ((invoke i).perform c).1 = .ok r) :
    ∃ c', Called c i r c' ∧ ((invoke i).perform c).2 = c'.noting i := by
  by_cases hfailing : 0 < c.failingInvokes
  · cases (invoke_of_failing hfailing i).symm.trans h
  · cases hcall : c.call i with
    | error e =>
      rw [invoke, perform_of, if_neg hfailing, hcall] at h
      cases h
    | ok outcome =>
      obtain ⟨r', c'⟩ := outcome
      rw [invoke_of_call hfailing hcall] at h ⊢
      obtain rfl := Except.ok.inj h
      exact ⟨c', called_of_call hcall, rfl⟩

/-! ## Blocks -/

/-- A call that succeeds commits a block when it registers a request, and
otherwise none. -/
theorem Called.blocks {c c' : Chain} {i : Invocation} {r : ContractResponse} (h : Called c i r c') :
    c.blocks <+: c'.blocks := by
  cases h with
  | registers _ _ => exact List.prefix_append _ _
  | records _ _ => exact List.prefix_rfl
  | answers _ => exact List.prefix_rfl

theorem invoke_blocks (i : Invocation) (c : Chain) :
    c.blocks <+: ((invoke i).perform c).2.blocks := by
  rw [invoke, perform_of]
  split
  · exact List.prefix_rfl
  · split
    · rename_i r c' hcall
      exact (called_of_call hcall).blocks
    · exact List.prefix_rfl

theorem query_blocks (chain : ChainId) (n : UInt64) (c : Chain) :
    ((query chain n).perform c).2.blocks = c.blocks := by
  rw [query, perform_of]
  split
  · rfl
  · split
    · rfl
    · split <;> rfl

/-- A query is answered with the block at the place of its number. -/
theorem of_query_ok {chain : ChainId} {n : UInt64} {c : Chain} {b : RawBlock}
    (h : ((query chain n).perform c).1 = .ok b) :
    ∃ i, n.toNat = i + 1 ∧ c.blocks[i]? = some b := by
  rw [query, perform_of] at h
  split at h
  · cases h
  · split at h
    · cases h
    · rename_i i hi
      split at h <;> cases h
      exact ⟨i, hi, ‹_›⟩

/-- The functions of the routing contract. -/
def routerFunctions : List String :=
  [Contract.invoke, Contract.recordResult, Contract.queryResult]

theorem callRouter_wrongFunction {function : String} (h : function ∉ routerFunctions) (c : Chain)
    (args : List Bytes) : c.callRouter function args = .error (wrongFunction function) := by
  simp only [routerFunctions, List.mem_cons, List.not_mem_nil, or_false, not_or] at h
  unfold callRouter
  rw [if_neg h.1, if_neg h.2.1, if_neg h.2.2]

/-- A call of a function that the routing contract does not have fails, and the
chain keeps its routing contract. -/
theorem invoke_wrongFunction {i : Invocation} {c : Chain} (hcontract : i.contract = c.router)
    (hfunction : i.function ∉ routerFunctions) :
    (∃ e, ((invoke i).perform c).1 = .error e) ∧ ((invoke i).perform c).2.router = c.router := by
  have hcall : c.call i = .error (wrongFunction i.function) := by
    rw [call, if_pos hcontract, callRouter_wrongFunction hfunction]
  rw [invoke, perform_of, hcall]
  split <;> exact ⟨⟨_, rfl⟩, rfl⟩

end Chain

/-! ## Ledgers -/

namespace MemoryLedger

/-- The blocks of a chain of a ledger, which are none if it is not hosted. -/
def blocks (chain : ChainId) (l : MemoryLedger) : List RawBlock :=
  ((l.chain? chain).map Chain.blocks).getD []

@[simp] theorem chain?_set (l : MemoryLedger) (chain : ChainId) (c : Chain) :
    (l.set chain c).chain? chain = some c := by
  simp [set, chain?, assign]

theorem blocks_set (l : MemoryLedger) (chain : ChainId) (c : Chain) :
    (l.set chain c).blocks chain = c.blocks := by
  simp [blocks]

theorem onChain_perform {α : Type} {chain : ChainId} {l : MemoryLedger} {c : Chain}
    (h : l.chain? chain = some c) (a : Action Chain LedgerError α) :
    (onChain chain a).perform l = ((a.perform c).1, l.set chain (a.perform c).2) := by
  rw [onChain, perform_of, h]

/-- What is done on a chain is done to its blocks. -/
theorem onChain_blocks {α : Type} {chain : ChainId} {a : Action Chain LedgerError α}
    (h : ∀ c, c.blocks <+: (a.perform c).2.blocks) (l : MemoryLedger) :
    l.blocks chain <+: ((onChain chain a).perform l).2.blocks chain := by
  rw [onChain, perform_of]
  cases hc : l.chain? chain with
  | none => exact List.prefix_rfl
  | some c =>
    dsimp only
    rw [blocks_set, blocks, hc]
    exact h c

theorem invoke_blocks (chain : ChainId) (call : Invocation) (l : MemoryLedger) :
    l.blocks chain <+: ((ledger.invoke chain call).perform l).2.blocks chain :=
  onChain_blocks (Chain.invoke_blocks call) l

/-- The routing contract of a chain of a ledger. -/
def router? (chain : ChainId) (l : MemoryLedger) : Option String :=
  (l.chain? chain).map Chain.router

/-- A ledger that refuses a call of its routing contract, for there is no such
function, will refuse the next one as well. -/
theorem invoke_wrongFunction {chain : ChainId} {call : Invocation} {l : MemoryLedger}
    (hcontract : l.router? chain = some call.contract)
    (hfunction : call.function ∉ Chain.routerFunctions) :
    (∃ e, ((ledger.invoke chain call).perform l).1 = .error e) ∧
      ((ledger.invoke chain call).perform l).2.router? chain = some call.contract := by
  obtain ⟨c, hc, hrouter⟩ := Option.map_eq_some_iff.1 hcontract
  obtain ⟨⟨e, herror⟩, hkept⟩ := Chain.invoke_wrongFunction hrouter.symm hfunction
  have hperform : (ledger.invoke chain call).perform l
      = (((Chain.invoke call).perform c).1, l.set chain ((Chain.invoke call).perform c).2) :=
    onChain_perform hc (Chain.invoke call)
  rw [hperform]
  refine ⟨⟨e, herror⟩, ?_⟩
  rw [router?, chain?_set, Option.map_some, hkept, hrouter]

theorem query_blocks (chain : ChainId) (n : UInt64) (l : MemoryLedger) :
    l.blocks chain <+: ((ledger.query chain n).perform l).2.blocks chain := by
  refine onChain_blocks (fun c => ?_) l
  exact (Chain.query_blocks chain n c).symm ▸ List.prefix_rfl

theorem of_query_ok {chain : ChainId} {n : UInt64} {l : MemoryLedger} {b : RawBlock}
    (h : ((ledger.query chain n).perform l).1 = .ok b) :
    ∃ i, n.toNat = i + 1 ∧ (l.blocks chain)[i]? = some b := by
  change ((onChain chain (Chain.query chain n)).perform l).1 = .ok b at h
  rw [onChain, perform_of] at h
  cases hc : l.chain? chain with
  | none =>
    rw [hc] at h
    cases h
  | some c =>
    rw [hc] at h
    rw [blocks, hc]
    exact Chain.of_query_ok h

end MemoryLedger

end RelayHub
