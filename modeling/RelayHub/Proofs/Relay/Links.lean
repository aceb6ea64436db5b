/-
What each operation of a relay does to the relay's store.

The store may fail but not lie, and only the relay writes it: ledgers, other
hubs and counters keep their hands off. Two operations write, each when it
succeeds only; all others leave the store's entries as they are. The theorems
here are the specifications of the operations, and what is proved about whole
runs uses nothing else about stores.
-/
import RelayHub.Proofs.Ledger.Memory
import RelayHub.Proofs.Store.Seen
import RelayHub.Relay.Operation

set_option autoImplicit false

namespace RelayHub

open RelayHub.Action BlockStore

variable {σ : Type}

/-- Links to a faithful store that nothing else writes. -/
structure RelayLinks.Faithful (p : RelayLinks σ) (entries : σ → ByteMap) : Prop where
  store : p.store.Faithful p.chain entries
  query (number : UInt64) (s : σ) :
    entries ((p.ledger.query p.chain number).perform s).2 = entries s
  invoke (call : Invocation) (s : σ) :
    entries ((p.ledger.invoke p.chain call).perform s).2 = entries s
  dispatch (q : CrossChainRequest) (s : σ) : entries ((p.dispatch q).perform s).2 = entries s
  count (counter : Counter) (s : σ) : entries (p.count counter s).2 = entries s

/-- Whether an operation may write the store. -/
def RelayOp.writes : RelayOp → Bool
  | recordSeen _ | storeBlock _ => true
  | _ => false

namespace RelayLinks.Faithful

variable {p : RelayLinks σ} {entries : σ → ByteMap} (h : p.Faithful entries)
include h

/-- An operation that does not write leaves the entries alone. -/
theorem perform_keeps {op : RelayOp} (hop : op.writes = false) (s : σ) :
    entries (p.perform op s).2 = entries s := by
  have hread : ∀ {α : Type} {a : Action σ StoreError α} {m : Action ByteMap StoreError α},
      Tracks entries StoreError.IsDatabase a m → Keeps id m →
        entries (a.perform s).2 = entries s := by
    intro α a m hview hkeeps
    -- A read that fails is excused for having changed nothing; else it is a map's.
    rcases hview.outcome s with ⟨-, -, -, hkept⟩ | hm
    · exact hkept
    · exact hkeeps hm
  cases op with
  | latest => exact hread (h.store.latest p.chain) (readLatest_keeps get_keeps _)
  | query number => exact h.query number s
  | hasSeen txHash => exact hread (h.store.hasSeen txHash) (hasSeen_keeps _ _)
  | dispatch q => exact h.dispatch q s
  | invoke call => exact h.invoke call s
  | count counter => exact h.count counter s
  | recordSeen r => cases hop
  | storeBlock b => cases hop

/-- What a store says is the greatest number is what its entries say. -/
theorem latest_answer {s : σ} {n : UInt64} (hs : (p.perform .latest s).1 = .ok n) :
    ((inMemory p.chain).latest p.chain).perform (entries s) = (.ok n, entries s) := by
  have hkept : entries (p.perform .latest s).2 = entries s := h.perform_keeps rfl s
  rcases (h.store.latest p.chain).outcome s with ⟨_, -, hfail, -⟩ | hm
  · exact absurd (hs.symm.trans hfail) (by simp)
  · rw [hm]
    exact Prod.ext hs hkept

/-- What a store says about a transaction is what its entries say. -/
theorem hasSeen_answer {s : σ} {txHash : String} {b : Bool}
    (hs : (p.perform (.hasSeen txHash) s).1 = .ok b) : seen p.chain (entries s) txHash = b := by
  rcases (h.store.hasSeen txHash).outcome s with ⟨_, -, hfail, -⟩ | hm
  · exact absurd (hs.symm.trans hfail) (by simp)
  · rw [hasSeen_perform] at hm
    have hanswer := congrArg Prod.fst hm
    exact Except.ok.inj (hanswer.trans hs)

/-- A record is written if the answer is a success and there was none. -/
theorem recordSeen_entries (r : DedupRecord) (s : σ) :
    (∃ e, (p.perform (.recordSeen r) s).1 = .error e ∧
        entries (p.perform (.recordSeen r) s).2 = entries s) ∨
      ∃ wrote, (p.perform (.recordSeen r) s).1 = .ok wrote ∧
        entries (p.perform (.recordSeen r) s).2 =
          if seen p.chain (entries s) r.txHash then entries s
          else withRecord p.chain (entries s) r := by
  rcases (h.store.recordSeen r).outcome s with ⟨e, -, hfail, hkept⟩ | hm
  · exact .inl ⟨e, hfail, hkept⟩
  · rw [recordSeen_perform] at hm
    refine .inr ⟨!seen p.chain (entries s) r.txHash, ?_, ?_⟩
    · refine (congrArg Prod.fst hm).symm.trans ?_
      cases seen p.chain (entries s) r.txHash <;> rfl
    · refine (congrArg Prod.snd hm).symm.trans ?_
      cases seen p.chain (entries s) r.txHash <;> rfl

/-- A block is stored as a block store over a map does it, or not at all. -/
theorem storeBlock_entries (b : StoredBlock) (s : σ) :
    (∃ e, (p.perform (.storeBlock b) s).1 = .error e ∧
        entries (p.perform (.storeBlock b) s).2 = entries s) ∨
      ((inMemory p.chain).storeBlock b).perform (entries s)
        = ((p.perform (.storeBlock b) s).1, entries (p.perform (.storeBlock b) s).2) := by
  rcases (h.store.storeBlock b).outcome s with ⟨e, -, hfail, hkept⟩ | hm
  · exact .inl ⟨e, hfail, hkept⟩
  · exact .inr hm

/-- Whatever a relay does, its records of transactions stay, but for the one it
writes. -/
theorem perform_recordAt {op : RelayOp} (hop : ∀ r, op ≠ .recordSeen r) (s : σ) (txHash : String) :
    recordAt p.chain (entries (p.perform op s).2) txHash = recordAt p.chain (entries s) txHash := by
  cases hw : op.writes with
  | false => rw [h.perform_keeps hw]
  | true =>
    cases op with
    | recordSeen r => exact absurd rfl (hop r)
    | storeBlock b =>
      rcases h.storeBlock_entries b s with ⟨e, -, hkept⟩ | hm
      · rw [hkept]
      · exact storeBlock_recordAt hm txHash
    | _ => cases hw

/-! ### Archives -/

/-- An operation that stores no block leaves the archive of the chain alone. -/
theorem perform_on {a : Archive} {op : RelayOp} (hop : ∀ b, op ≠ .storeBlock b) {s : σ}
    (ha : a.On p.chain (entries s)) : a.On p.chain (entries (p.perform op s).2) := by
  cases hw : op.writes with
  | false =>
    rw [h.perform_keeps hw]
    exact ha
  | true =>
    cases op with
    | storeBlock b => exact absurd rfl (hop b)
    -- Besides blocks only records are written, and an archive has no part in these.
    | recordSeen r =>
      rcases h.recordSeen_entries r s with ⟨e, -, hkept⟩ | ⟨wrote, -, hwritten⟩
      · rw [hkept]
        exact ha
      · rw [hwritten]
        split
        · exact ha
        · exact ha.withRecord r
    | _ => cases hw

/-- A block is put into the archive of the chain, or nothing is changed. -/
theorem storeBlock_on {a : Archive} {b : StoredBlock} (hchain : b.chain = p.chain) (hb : b.Fits)
    {s : σ} (ha : a.On p.chain (entries s)) :
    (∃ e, (p.perform (.storeBlock b) s).1 = .error e ∧
        a.On p.chain (entries (p.perform (.storeBlock b) s).2)) ∨
      ((p.perform (.storeBlock b) s).1 = .ok () ∧
        (a.put b).On p.chain (entries (p.perform (.storeBlock b) s).2)) := by
  rcases h.storeBlock_entries b s with ⟨e, hfail, hkept⟩ | hm
  · refine .inl ⟨e, hfail, ?_⟩
    rw [hkept]
    exact ha
  · have hwritten := Archive.writeBlock_perform ha hchain
    change (writeBlock ByteMap.backend b).perform (entries s) = _ at hm
    rw [hwritten] at hm
    obtain ⟨hanswer, hentries⟩ := Prod.mk.inj hm
    refine .inr ⟨hanswer.symm, ?_⟩
    rw [← hentries]
    exact Archive.put_on ha hb

end RelayLinks.Faithful

/-! ## Ledgers that only grow -/

/-- Links to a ledger whose chain only grows, and which answers a query with the
block at the place of its number, if with one of that number. -/
structure RelayLinks.Appends (p : RelayLinks σ) (blocks : σ → List RawBlock) : Prop where
  grows (op : RelayOp) (s : σ) : blocks s <+: blocks (p.perform op s).2
  answers {n : UInt64} {b : RawBlock} {s : σ} : (p.perform (.query n) s).1 = .ok b →
    b.number = n → ∃ i, n.toNat = i + 1 ∧ (blocks (p.perform (.query n) s).2)[i]? = some b

/-! ## Links in memory -/

/-- A faithful backend in a part of a larger state. -/
theorem Backend.Faithful.within {τ : Type} {b : Backend τ} {entries : τ → ByteMap}
    (h : b.Faithful entries) (part : Part σ τ) (hpart : ∀ t s, part.get (part.set t s) = t) :
    (b.within part).Faithful fun s => entries (part.get s) := by
  have hwithin : ∀ {α : Type} {a : Action τ BackendError α} {m : Action ByteMap BackendError α},
      Tracks entries (fun _ => True) a m →
        Tracks (fun s => entries (part.get s)) (fun _ => True) (a.within part) m := by
    intro α a m ha s s' r hs
    cases hs
    dsimp only
    rw [hpart]
    exact ha.outcome (part.get s)
  exact {
    get key := hwithin (h.get key)
    has key := hwithin (h.has key)
    put key value := hwithin (h.put key value)
    putAll added := hwithin (h.putAll added) }

/-- A store beside a ledger, both in memory. -/
abbrev Bench := ByteMap × MemoryLedger

/-- Links to a store and a ledger in memory, and to hubs that answer each
request in one way. -/
def RelayLinks.onBench (chain : ChainId) (answer : CrossChainRequest → Except HubError HubResponse) :
    RelayLinks Bench where
  chain
  store := .ofBackend chain (ByteMap.backend.within ⟨Prod.fst, fun m s => (m, s.2)⟩)
  ledger := MemoryLedger.ledger.within ⟨Prod.snd, fun l s => (s.1, l)⟩
  dispatch q := Action.ofExcept (answer q)
  count _ := pure ()

theorem RelayLinks.onBench_faithful (chain : ChainId)
    (answer : CrossChainRequest → Except HubError HubResponse) :
    (onBench chain answer).Faithful Prod.fst where
  store := ofBackend_faithful (ByteMap.backend_faithful.within _ fun _ _ => rfl) chain
  query _ _ := rfl
  invoke _ _ := rfl
  dispatch _ _ := rfl
  count _ _ := rfl

theorem RelayLinks.onBench_appends (chain : ChainId)
    (answer : CrossChainRequest → Except HubError HubResponse) :
    (onBench chain answer).Appends fun s => s.2.blocks chain where
  grows op s := by
    -- What the store does, it does beside the ledger.
    have hstore : (onBench chain answer).store.Spares fun s => s.2.blocks chain :=
      ofBackend_spares (Backend.within_spares _ _ fun _ _ => rfl) chain
    have hsame : ∀ {α : Type} {a : Action Bench StoreError α},
        Keeps (fun s : Bench => s.2.blocks chain) a →
          s.2.blocks chain <+: (a.perform s).2.2.blocks chain :=
      fun ha => (ha.outcome s).symm ▸ List.prefix_rfl
    cases op with
    | latest => exact hsame (hstore.latest chain)
    | query n => exact MemoryLedger.query_blocks chain n s.2
    | hasSeen txHash => exact hsame (hstore.hasSeen txHash)
    | dispatch q => exact List.prefix_rfl
    | recordSeen r => exact hsame (hstore.recordSeen r)
    | invoke call => exact MemoryLedger.invoke_blocks chain call s.2
    | storeBlock b => exact hsame (hstore.storeBlock b)
    | count counter => exact List.prefix_rfl
  answers {n b s} hs _ := by
    obtain ⟨i, hi, hat⟩ := MemoryLedger.of_query_ok (l := s.2) hs
    obtain ⟨hlt, rfl⟩ := List.getElem?_eq_some_iff.1 hat
    exact ⟨i, hi, List.prefix_iff_getElem?.1 (MemoryLedger.query_blocks chain n s.2) i hlt⟩

/-! ### A bench with one request

The examples of the theorems about relays are runs on this bench: a chain with
one block, whose one transaction asks another chain for something. -/

namespace Bench

/-- The chain that asks. -/
def chain : ChainId := ⟨"A"⟩

/-- The transaction that asks. -/
def envelope : Envelope :=
  .invocation "t1" [Utf8.encode Contract.invoke, [65], [66], [49], [49], [], []]

/-- Its block. -/
def block : RawBlock where
  number := 1
  previousHash := ""
  dataHash := "d1"
  hash := "h1"
  timestamp := 0
  envelopes := [envelope]
  origin := []

theorem block_fits : block.Fits where
  previousHash := by decide
  hash := by decide
  dataHash := by decide
  origin := by decide
  txHash {e t} he ht := by
    obtain rfl := List.mem_singleton.1 he
    cases ht
    decide
  raw {e} he := by
    obtain rfl := List.mem_singleton.1 he
    decide

/-- What it asks. -/
def request : CrossChainRequest where
  origin := chain
  destination := ⟨"B"⟩
  transactionId := "1"
  stepId := "1"
  payload := []
  signer := []
  timestamp := 0
  found := ⟨"t1", 1, "h1", []⟩

/-- What it is answered. -/
def response : HubResponse where
  origin := chain
  destination := ⟨"B"⟩
  transactionId := "1"
  stepId := "1"
  payload := [7]
  signer := [8]
  errorMessage := ""
  callback := none

/-- The bench: nothing is stored, and the request is registered. -/
def start : Bench :=
  (.empty, ⟨[(chain, { Chain.new "router" "proxy" with
    blocks := [block]
    requests := [(⟨"1", "1"⟩, envelope.args.drop 1)] })]⟩)

/-- The operations of a relay at the bench. -/
def perform : (op : RelayOp) → StateM Bench op.Answer :=
  (RelayLinks.onBench chain fun _ => .ok response).perform

end Bench

end RelayHub
