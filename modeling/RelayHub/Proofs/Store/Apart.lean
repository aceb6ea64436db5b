/-
Chains, and blocks and records of transactions, in one store do not interfere.

All keys are in one map, and what tells them apart is how they are put together.
So there is a part of the map that the blocks of a chain are in, and another that
the records are in. A call about one part depends on nothing else, and leaves the
other parts alone. Two runs that differ only in calls about other parts therefore
leave the same behind in the part that is asked about.
-/
import RelayHub.Proofs.Store.Calls

set_option autoImplicit false

namespace RelayHub

open RelayHub.Action BlockStore

variable {σ : Type}

/-! ## Parts of a map -/

/-- A key of the record of a transaction. -/
def Key.OfRecords (own : ChainId) (key : Bytes) : Prop :=
  ∃ txHash, key = Key.transaction own txHash

namespace ByteMap

/-- What a map holds under some keys. -/
def under (keys : Bytes → Prop) (m : ByteMap) : { key // keys key } → Option Bytes :=
  fun key => m.get? key

variable {keys : Bytes → Prop} {m m' : ByteMap}

theorem under_eq_iff :
    m.under keys = m'.under keys ↔ ∀ key, keys key → m.get? key = m'.get? key := by
  rw [funext_iff, Subtype.forall]
  rfl

theorem get_determined {key : Bytes} (hkey : keys key) :
    Determined (under keys) (backend.get key) := by
  apply Determined.look
  intro m m' h
  rw [under_eq_iff.1 h key hkey]

theorem has_determined {key : Bytes} (hkey : keys key) :
    Determined (under keys) (backend.has key) := by
  apply Determined.look
  intro m m' h
  rw [contains, contains, under_eq_iff.1 h key hkey]

theorem put_determined (key value : Bytes) : Determined (under keys) (backend.put key value) := by
  intro m m' h
  refine ⟨rfl, under_eq_iff.2 fun other hother => ?_⟩
  change (m.insert key value).get? other = (m'.insert key value).get? other
  rw [get?_insert, get?_insert, under_eq_iff.1 h other hother]

theorem putAll_determined (added : List (Bytes × Bytes)) :
    Determined (under keys) (backend.putAll added) := by
  intro m m' h
  refine ⟨rfl, under_eq_iff.2 fun other hother => ?_⟩
  change (m.insertAll added).get? other = (m'.insertAll added).get? other
  rw [get?_insertAll, get?_insertAll, under_eq_iff.1 h other hother]

end ByteMap

/-! ## Operations on one part -/

namespace BlockStore

section Blocks

variable {c : ChainId}

theorem read_determined {α : Type} {keys : Bytes → Prop} {key : Bytes} (hkey : keys key)
    (decode : Bytes → Except StoreError α) :
    Determined (ByteMap.under keys) (read ByteMap.backend key decode) := by
  apply (ByteMap.get_determined hkey).mapError.bind
  intro found
  cases found with
  | none => exact .pure _
  | some bytes => exact (Determined.ofExcept _).bind fun _ => .pure _

theorem readBlock_determined (n : UInt64) :
    Determined (ByteMap.under (Key.OfBlocks c)) (readBlock ByteMap.backend c n) :=
  read_determined (Key.ofBlocks_block c n) _

theorem readNumber_determined (h : String) :
    Determined (ByteMap.under (Key.OfBlocks c)) (readNumber ByteMap.backend c h) :=
  read_determined (Key.ofBlocks_hash c h) _

theorem readLatest_determined :
    Determined (ByteMap.under (Key.OfBlocks c)) (readLatest ByteMap.backend c) :=
  (read_determined (Key.ofBlocks_latest c) _).bind fun _ => .pure _

theorem readByHash_determined (h : String) :
    Determined (ByteMap.under (Key.OfBlocks c)) (readByHash ByteMap.backend c h) := by
  apply (readNumber_determined h).bind
  intro number
  cases number with
  | none => exact .pure _
  | some n => exact readBlock_determined n

theorem linkEntry_determined (b : StoredBlock) :
    Determined (ByteMap.under (Key.OfBlocks b.chain)) (linkEntry ByteMap.backend b) := by
  unfold linkEntry
  split
  · exact .pure _
  · apply (readNumber_determined _).bind
    intro number
    cases number with
    | none => exact .pure _
    | some n =>
      apply (readBlock_determined n).bind
      intro previous
      cases previous with
      | none => exact .throw _
      | some previous =>
        dsimp only
        split
        · exact .pure _
        · exact .pure _

/-- What is read and written to store a block is of its chain. -/
theorem writeBlock_determined (b : StoredBlock) :
    Determined (ByteMap.under (Key.OfBlocks b.chain)) (writeBlock ByteMap.backend b) := by
  apply (readBlock_determined _).bind
  intro existing
  have hchain : (keepLink b existing).chain = b.chain := by rw [Archive.keepLink_eq]
  have hlink := linkEntry_determined (keepLink b existing)
  have hlatest := readLatest_determined (c := (keepLink b existing).chain)
  rw [hchain] at hlink hlatest
  apply hlink.bind
  intro link
  rw [latestEntry, hchain]
  apply (hlatest.bind fun _ => .pure _).bind
  intro latest
  exact (ByteMap.putAll_determined _).mapError

end Blocks

section Records

variable {own : ChainId}

theorem hasSeen_determined (txHash : String) :
    Determined (ByteMap.under (Key.OfRecords own)) ((inMemory own).hasSeen txHash) :=
  (ByteMap.has_determined ⟨txHash, rfl⟩).mapError (f := StoreError.database)

theorem recordOnce_determined (r : DedupRecord) :
    Determined (ByteMap.under (Key.OfRecords own)) (recordOnce ByteMap.backend own r) := by
  apply (ByteMap.has_determined ⟨r.txHash, rfl⟩).mapError.bind
  intro seen
  cases seen with
  | true => exact .pure _
  | false => exact (ByteMap.put_determined _ _).mapError.bind fun _ => .pure _

theorem readTransaction_determined (txHash : String) :
    Determined (ByteMap.under (Key.OfRecords own)) (readTransaction ByteMap.backend own txHash) :=
  read_determined ⟨txHash, rfl⟩ _

end Records

end BlockStore

/-! ## Calls on one part -/

namespace StoreCall

/-- Whether a call stores a block of a chain. -/
def storesOf (c : ChainId) : StoreCall → Bool
  | storeBlock b => b.chain = c
  | _ => false

/-- Whether a call records a transaction. -/
def records : StoreCall → Bool
  | recordSeen _ => true
  | _ => false

/-- A call that asks for blocks of a chain. -/
def AsksBlocks (c : ChainId) : StoreCall → Prop
  | latest chain => chain = c
  | byNumber chain _ => chain = c
  | byHash chain _ => chain = c
  | _ => False

/-- A call that asks for records of transactions. -/
def AsksRecords : StoreCall → Prop
  | hasSeen _ => True
  | transaction _ => True
  | _ => False

end StoreCall

namespace BlockStore

variable {own c : ChainId} {q : StoreCall}

/-- A call that only asks leaves the map as it is. -/
theorem call_keeps (hstores : q.stores = []) (hrecords : q.records = false) :
    Keeps id ((inMemory own).call q) := by
  cases q with
  | hasSeen txHash => exact hasSeen_keeps own txHash
  | recordSeen r => cases hrecords
  | storeBlock b => cases hstores
  | latest chain => exact readLatest_keeps get_keeps chain
  | byNumber chain n => exact readBlock_keeps get_keeps chain n
  | byHash chain h =>
    apply (readNumber_keeps get_keeps chain h).bind
    intro number
    cases number with
    | none => exact .pure _
    | some n => exact readBlock_keeps get_keeps chain n
  | transaction txHash => exact read_keeps get_keeps _ _

/-- A call that does not store a block of a chain leaves the blocks of the chain
alone. -/
theorem call_keeps_blocks (hc : c.NulFree) (hstores : ∀ b ∈ q.stores, b.chain.NulFree)
    (h : q.storesOf c = false) :
    Keeps (ByteMap.under (Key.OfBlocks c)) ((inMemory own).call q) := by
  intro m m' r hperform
  by_cases hasks : q.stores = [] ∧ q.records = false
  · have hsame : m' = m := call_keeps hasks.1 hasks.2 hperform
    rw [hsame]
  · rw [ByteMap.under_eq_iff]
    intro key hkey
    cases q with
    | recordSeen record =>
      change ((inMemory own).recordSeen record).perform m = _ at hperform
      rw [recordSeen_perform] at hperform
      split at hperform
      · cases hperform
        rfl
      · cases hperform
        obtain ⟨k, suffix, hkind, rfl⟩ := hkey
        exact get?_withRecord_of_kind record hkind c suffix
    | storeBlock b =>
      apply storeBlock_get? hperform
      intro hother
      have hchain : b.chain = c :=
        Key.chain_eq_of_ofBlocks (hstores b List.mem_cons_self) hc hother hkey
      simp [StoreCall.storesOf, hchain] at h
    | hasSeen txHash => exact absurd ⟨rfl, rfl⟩ hasks
    | latest chain => exact absurd ⟨rfl, rfl⟩ hasks
    | byNumber chain n => exact absurd ⟨rfl, rfl⟩ hasks
    | byHash chain hash => exact absurd ⟨rfl, rfl⟩ hasks
    | transaction txHash => exact absurd ⟨rfl, rfl⟩ hasks

/-- A call that records no transaction leaves the records alone. -/
theorem call_keeps_records (h : q.records = false) :
    Keeps (ByteMap.under (Key.OfRecords own)) ((inMemory own).call q) := by
  intro m m' r hperform
  by_cases hasks : q.stores = []
  · have hsame : m' = m := call_keeps hasks h hperform
    rw [hsame]
  · rw [ByteMap.under_eq_iff]
    rintro key ⟨txHash, rfl⟩
    cases q with
    | storeBlock b => exact storeBlock_recordAt hperform txHash
    | recordSeen record => cases h
    | hasSeen txHash => exact absurd rfl hasks
    | latest chain => exact absurd rfl hasks
    | byNumber chain n => exact absurd rfl hasks
    | byHash chain hash => exact absurd rfl hasks
    | transaction txHash => exact absurd rfl hasks

theorem call_determined_of_storesOf (h : q.storesOf c = true) :
    Determined (ByteMap.under (Key.OfBlocks c)) ((inMemory own).call q) := by
  cases q with
  | storeBlock b =>
    obtain rfl : b.chain = c := of_decide_eq_true h
    exact writeBlock_determined b
  | _ => cases h

theorem call_determined_of_asksBlocks (h : q.AsksBlocks c) :
    Determined (ByteMap.under (Key.OfBlocks c)) ((inMemory own).call q) := by
  cases q with
  | latest chain =>
    obtain rfl : chain = c := h
    exact readLatest_determined
  | byNumber chain n =>
    obtain rfl : chain = c := h
    exact readBlock_determined n
  | byHash chain hash =>
    obtain rfl : chain = c := h
    exact readByHash_determined hash
  | _ => exact h.elim

theorem call_determined_of_records (h : q.records = true) :
    Determined (ByteMap.under (Key.OfRecords own)) ((inMemory own).call q) := by
  cases q with
  | recordSeen r => exact recordOnce_determined r
  | _ => cases h

theorem call_determined_of_asksRecords (h : q.AsksRecords) :
    Determined (ByteMap.under (Key.OfRecords own)) ((inMemory own).call q) := by
  cases q with
  | hasSeen txHash => exact hasSeen_determined txHash
  | transaction txHash => exact readTransaction_determined txHash
  | _ => exact h.elim

/-! ## Runs -/

/-- What a call is answered after others. -/
def answerAfter (store : BlockStore σ) (calls : List StoreCall) (q : StoreCall) (s : σ) :
    Except StoreError q.Value :=
  ((store.call q).perform (store.run calls s).2).1

/-- Of some calls and one after them, none fails by what the store is kept in. -/
structure Undisturbed (store : BlockStore σ) (calls : List StoreCall) (q : StoreCall) (s : σ) :
    Prop where
  before : ∀ a ∈ (store.run calls s).1, ∀ e, a.answer = .error e → ¬ e.IsDatabase
  last : ∀ e, store.answerAfter calls q s = .error e → ¬ e.IsDatabase

theorem run_cons_snd (store : BlockStore σ) (x : StoreCall) (calls : List StoreCall) (s : σ) :
    (store.run (x :: calls) s).2 = (store.run calls ((store.call x).perform s).2).2 := rfl

/-- Calls that leave what is seen alone may be left out of a run. -/
theorem run_filter {γ : Type} {view : σ → γ} {store : BlockStore σ} {p : StoreCall → Bool}
    {calls : List StoreCall} (hothers : ∀ x ∈ calls, p x = false → Keeps view (store.call x))
    (hown : ∀ x, p x = true → Determined view (store.call x)) {s t : σ} (h : view s = view t) :
    view (store.run calls s).2 = view (store.run (calls.filter p) t).2 := by
  -- The two runs are compared from states that look alike: a call that is left out keeps
  -- them so, and one that is kept turns them into states that look alike again.
  induction calls generalizing s t with
  | nil => exact h
  | cons x calls ih =>
    obtain ⟨hx, hcalls⟩ := List.forall_mem_cons.1 hothers
    rw [run_cons_snd]
    cases hp : p x with
    | false =>
      rw [List.filter_cons_of_neg (by simp [hp])]
      apply ih hcalls
      rw [(hx hp).outcome, h]
    | true =>
      rw [List.filter_cons_of_pos hp, run_cons_snd]
      apply ih hcalls
      exact (hown x hp h).2

section Backends

variable {b : Backend σ} {entries : σ → ByteMap} (hb : b.Faithful entries)
include hb

/-- Calls that do not fail by the backend do what they do over a map. -/
theorem run_inMemory {calls : List StoreCall} {s : σ}
    (h : ∀ a ∈ ((ofBackend own b).run calls s).1, ∀ e, a.answer = .error e → ¬ e.IsDatabase) :
    ((inMemory own).run calls (entries s)).2 = entries ((ofBackend own b).run calls s).2 := by
  induction calls generalizing s with
  | nil => rfl
  | cons x calls ih =>
    obtain ⟨hx, hcalls⟩ := List.forall_mem_cons.1 h
    rw [run_cons_snd, run_cons_snd]
    rcases (call_tracks hb own x).outcome s with ⟨e, he, hfailed, -⟩ | hdone
    · exact absurd he.isDatabase (hx e hfailed)
    · rw [hdone]
      exact ih hcalls

theorem answerAfter_inMemory {calls : List StoreCall} {s : σ}
    (h : (ofBackend own b).Undisturbed calls q s) :
    (ofBackend own b).answerAfter calls q s
      = (inMemory own).answerAfter calls q (entries s) := by
  rw [answerAfter, answerAfter, run_inMemory hb h.before]
  rcases (call_tracks hb own q).outcome ((ofBackend own b).run calls s).2 with
    ⟨e, he, hfailed, -⟩ | hdone
  · exact absurd he.isDatabase (h.last e hfailed)
  · rw [hdone]

/-- If the backend does not fail, and names of chains have no zero byte: what is
answered about the blocks of a chain is what would be answered if nothing had been
done but storing blocks of that chain, and what is answered about transactions is
what would be answered if nothing had been done but recording transactions. -/
theorem chains_and_kinds_apart (own : ChainId) {calls : List StoreCall}
    (hcalls : ∀ x ∈ calls.flatMap StoreCall.stores, x.chain.NulFree) {q : StoreCall} {s : σ}
    (h : (ofBackend own b).Undisturbed calls q s) :
    (∀ c : ChainId, c.NulFree → q.AsksBlocks c →
      (ofBackend own b).Undisturbed (calls.filter (StoreCall.storesOf c)) q s →
      (ofBackend own b).answerAfter calls q s
        = (ofBackend own b).answerAfter (calls.filter (StoreCall.storesOf c)) q s) ∧
    (q.AsksRecords →
      (ofBackend own b).Undisturbed (calls.filter StoreCall.records) q s →
      (ofBackend own b).answerAfter calls q s
        = (ofBackend own b).answerAfter (calls.filter StoreCall.records) q s) := by
  constructor
  · intro c hc hq hsub
    rw [answerAfter_inMemory hb h, answerAfter_inMemory hb hsub]
    refine (call_determined_of_asksBlocks hq ?_).1
    apply run_filter _ (fun x hx => call_determined_of_storesOf hx) rfl
    intro x hx hother
    apply call_keeps_blocks hc _ hother
    intro block hblock
    exact hcalls block (List.mem_flatMap.2 ⟨x, hx, hblock⟩)
  · intro hq hsub
    rw [answerAfter_inMemory hb h, answerAfter_inMemory hb hsub]
    refine (call_determined_of_asksRecords hq ?_).1
    exact run_filter (fun x _ hother => call_keeps_records hother)
      (fun x hx => call_determined_of_records hx) rfl

end Backends

/-! ### Two chains and a transaction -/

/-- Calls that are all answered are not disturbed. -/
theorem undisturbed_of_isOk {store : BlockStore σ} {calls : List StoreCall} {s : σ}
    (hcalls : ∀ a ∈ (store.run calls s).1, a.answer.isOk = true)
    (hlast : (store.answerAfter calls q s).isOk = true) : store.Undisturbed calls q s where
  before a ha e he := by
    have hok := hcalls a ha
    rw [he] at hok
    cases hok
  last e he := by
    rw [he] at hlast
    cases hlast

/-- Blocks of two chains, of which the name of one begins with that of the other,
with hashes that contain zero bytes and names of chains; and the record of a
transaction with one of these hashes. -/
def mixedCalls : List StoreCall :=
  [.storeBlock (plainBlock 1 "" "B\x00h"),
    .storeBlock { plainBlock 1 "" "h" with chain := ⟨"AB"⟩ },
    .recordSeen ⟨"B\x00h", 1, "h", []⟩,
    .storeBlock { plainBlock 7 "h" "B\x00h" with chain := ⟨"AB"⟩ },
    .hasSeen "h",
    .storeBlock (plainBlock 2 "B\x00h" "h")]

/-- The block that is found is that of its own chain, with the successor that it
has there; and the record is found beside it. -/
theorem mixedCalls_apart :
    (∀ x ∈ mixedCalls.flatMap StoreCall.stores, x.chain.NulFree) ∧
      (inMemory ⟨"A"⟩).answerAfter mixedCalls (.byHash ⟨"A"⟩ "B\x00h") .empty
        = .ok (some { plainBlock 1 "" "B\x00h" with nextHash := some "h" }) ∧
      (inMemory ⟨"A"⟩).answerAfter (mixedCalls.filter (StoreCall.storesOf ⟨"A"⟩))
          (.byHash ⟨"A"⟩ "B\x00h") .empty
        = .ok (some { plainBlock 1 "" "B\x00h" with nextHash := some "h" }) ∧
      (inMemory ⟨"A"⟩).answerAfter (mixedCalls.filter StoreCall.records)
          (.transaction "B\x00h") .empty
        = .ok (some ⟨"B\x00h", 1, "h", []⟩) := by
  have hchains : ∀ x ∈ mixedCalls.flatMap StoreCall.stores, x.chain.NulFree := by decide
  have hblock : (inMemory ⟨"A"⟩).answerAfter mixedCalls (.byHash ⟨"A"⟩ "B\x00h") .empty
      = .ok (some { plainBlock 1 "" "B\x00h" with nextHash := some "h" }) := rfl
  have hrecord : (inMemory ⟨"A"⟩).answerAfter mixedCalls (.transaction "B\x00h") .empty
      = .ok (some ⟨"B\x00h", 1, "h", []⟩) := rfl
  obtain ⟨hblocks, -⟩ := chains_and_kinds_apart ByteMap.backend_faithful ⟨"A"⟩ hchains
    (q := .byHash ⟨"A"⟩ "B\x00h") (s := .empty)
    (undisturbed_of_isOk (by decide +kernel) (by decide +kernel))
  obtain ⟨-, hrecords⟩ := chains_and_kinds_apart ByteMap.backend_faithful ⟨"A"⟩ hchains
    (q := .transaction "B\x00h") (s := .empty)
    (undisturbed_of_isOk (by decide +kernel) (by decide +kernel))
  refine ⟨hchains, hblock, ?_, ?_⟩
  · rw [← hblocks ⟨"A"⟩ (by decide) rfl
      (undisturbed_of_isOk (by decide +kernel) (by decide +kernel))]
    exact hblock
  · rw [← hrecords trivial (undisturbed_of_isOk (by decide +kernel) (by decide +kernel))]
    exact hrecord

end BlockStore

end RelayHub
