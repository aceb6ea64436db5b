/-
Calls of a block store, and what they cannot do.

Whatever blocks it is given, and whenever its backend fails, a block store of one
chain keeps its keys in order: every hash has a number that has a block, and
every record can be read back. So no call fails but by the backend, one that
fails changes nothing, and the greatest number is that of the blocks that were
stored.
-/
import RelayHub.Proofs.Store.Seen
import RelayHub.Proofs.Store.Stored

set_option autoImplicit false

namespace RelayHub

open RelayHub.Action BlockStore

variable {σ : Type}

/-! ## Calls -/

/-- A call of a block store. -/
inductive StoreCall where
  | hasSeen (txHash : String)
  | recordSeen (r : DedupRecord)
  | storeBlock (b : StoredBlock)
  | latest (chain : ChainId)
  | byNumber (chain : ChainId) (n : UInt64)
  | byHash (chain : ChainId) (h : String)
  | transaction (txHash : String)

namespace StoreCall

/-- What a call is answered if it does not fail. -/
def Value : StoreCall → Type
  | hasSeen _ => Bool
  | recordSeen _ => Bool
  | storeBlock _ => Unit
  | latest _ => UInt64
  | byNumber _ _ => Option StoredBlock
  | byHash _ _ => Option StoredBlock
  | transaction _ => Option DedupRecord

/-- The block that a call stores if it does not fail. -/
def stores : StoreCall → List StoredBlock
  | storeBlock b => [b]
  | _ => []

/-- A call whose block is of the chain of the store, and whose texts have lengths
that are words. -/
def Fits (own : ChainId) : StoreCall → Prop
  | storeBlock b => b.chain = own ∧ b.Fits
  | recordSeen r => r.Fits
  | _ => True

end StoreCall

/-- A call, and what it was answered. -/
structure Answered where
  call : StoreCall
  answer : Except StoreError call.Value

/-- The block that was stored by a call. -/
def Answered.stored (a : Answered) : List StoredBlock :=
  match a.answer with
  | .ok _ => a.call.stores
  | .error _ => []

/-- The blocks that were stored by calls. -/
def stored (answers : List Answered) : List StoredBlock :=
  answers.flatMap Answered.stored

namespace BlockStore

/-- A call of a block store, as an action. -/
def call (store : BlockStore σ) : (c : StoreCall) → Action σ StoreError c.Value
  | .hasSeen txHash => store.hasSeen txHash
  | .recordSeen r => store.recordSeen r
  | .storeBlock b => store.storeBlock b
  | .latest chain => store.latest chain
  | .byNumber chain n => store.byNumber chain n
  | .byHash chain h => store.byHash chain h
  | .transaction txHash => store.transaction txHash

/-- Calls one after the other, also after some that have failed. -/
def run (store : BlockStore σ) : List StoreCall → σ → List Answered × σ
  | [], s => ([], s)
  | c :: calls, s =>
    let (r, s) := (store.call c).perform s
    let (answers, s) := run store calls s
    (⟨c, r⟩ :: answers, s)

/-- What a call is answered, unless the backend fails. -/
def Answers {α : Type} (b : Backend σ) (r : Except StoreError α) (v : α) : Prop :=
  r = .ok v ∨ ∃ e, r = .error e ∧ StoreError.CausedBy b.FailsWith e

theorem call_tracks {b : Backend σ} {entries : σ → ByteMap} (hb : b.Faithful entries)
    (own : ChainId) (c : StoreCall) :
    Tracks entries (StoreError.CausedBy b.FailsWith) ((ofBackend own b).call c)
      ((inMemory own).call c) := by
  have hfollows := hb.follows
  cases c with
  | hasSeen txHash => exact hasSeen_tracks hfollows _
  | recordSeen r => exact recordOnce_tracks hfollows own r
  | storeBlock block => exact writeBlock_tracks hfollows block
  | latest chain => exact readLatest_tracks hfollows.get chain
  | byNumber chain n => exact readBlock_tracks hfollows.get chain n
  | byHash chain h => exact readByHash_tracks hfollows.get chain h
  | transaction txHash => exact read_tracks hfollows.get _ _

theorem run_cons {store : BlockStore σ} {c : StoreCall} {calls : List StoreCall} {s s' : σ}
    {answers : List Answered} (h : store.run (c :: calls) s = (answers, s')) :
    ∃ r s₁ rest, (store.call c).perform s = (r, s₁) ∧ store.run calls s₁ = (rest, s') ∧
      answers = ⟨c, r⟩ :: rest := by
  rcases hc : (store.call c).perform s with ⟨r, s₁⟩
  rcases hrest : store.run calls s₁ with ⟨rest, s₂⟩
  rw [run, hc] at h
  dsimp only at h
  rw [hrest] at h
  cases h
  exact ⟨r, s₁, rest, rfl, hrest, rfl⟩

end BlockStore

/-! ## Keys in order -/

/-- A map that a block store of a chain has filled with some blocks: it holds
their archive, what it holds of other chains leads nowhere, and its records can
be read back. -/
structure Sound (own : ChainId) (bs : List StoredBlock) (m : ByteMap) : Prop where
  archive : (Archive.ofStored bs).On own m
  chain {b : StoredBlock} : b ∈ bs → b.chain = own
  block {c : ChainId} (hc : own ≠ c) (n : UInt64) : m.get? (Key.block c n) = none
  latest {c : ChainId} (hc : own ≠ c) : m.get? (Key.latest c) = none
  number (c : ChainId) (h : String) : ∀ v ∈ m.get? (Key.hash c h), ∃ n, v = Bytes.ofWordBE n
  record (txHash : String) : ∀ v ∈ recordAt own m txHash, ∃ r : DedupRecord, r.Fits ∧ v = r.encode

theorem sound_of_empty (own : ChainId) {m : ByteMap} (h : m = .empty) : Sound own [] m := by
  subst h
  exact {
    archive := Archive.empty_on own
    chain := List.not_mem_nil.elim
    block := fun _ _ => rfl
    latest := fun _ => rfl
    number := fun _ _ v hv => by cases hv
    record := fun _ v hv => by cases hv }

/-- The keys under which storing a block writes. -/
theorem Archive.mem_writes {a : Archive} {own : ChainId} {b : StoredBlock} {e : Bytes × Bytes}
    (h : e ∈ a.writes own b) :
    (∃ n, e.1 = Key.block own n) ∨ e = (Key.hash own b.hash, Bytes.ofWordBE b.number) ∨
      e.1 = Key.latest own := by
  simp only [writes, linkOf, List.mem_append, List.mem_cons, List.not_mem_nil, or_false] at h
  rcases h with (h | rfl | h) | rfl
  · obtain ⟨p, -, rfl⟩ := Option.map_eq_some_iff.1 (Option.mem_toList.1 h)
    exact .inl ⟨p.number, rfl⟩
  · exact .inr (.inl rfl)
  · split at h
    · rw [List.mem_singleton.1 h]
      exact .inr (.inr rfl)
    · cases h
  · exact .inl ⟨b.number, rfl⟩

/-- Storing a block leaves all other keys alone. -/
theorem Archive.get?_writes_ne {a : Archive} {own : ChainId} {b : StoredBlock} {m : ByteMap}
    {key : Bytes} (hblock : ∀ n, key ≠ Key.block own n) (hhash : key ≠ Key.hash own b.hash)
    (hlatest : key ≠ Key.latest own) : (m.insertAll (a.writes own b)).get? key = m.get? key := by
  refine get?_insertAll_ne fun e he => ?_
  rcases mem_writes he with ⟨n, hkey⟩ | rfl | hkey
  · rw [hkey]
    exact hblock n
  · exact hhash
  · rw [hkey]
    exact hlatest

namespace Sound

variable {own : ChainId} {bs : List StoredBlock} {m : ByteMap}

theorem storeBlock (h : Sound own bs m) {b : StoredBlock} (hchain : b.chain = own) (hb : b.Fits) :
    Sound own (bs ++ [b]) (m.insertAll ((Archive.ofStored bs).writes own b)) where
  archive := by
    rw [Archive.ofStored_concat]
    exact Archive.put_on h.archive hb
  chain {c} hc := by
    rcases List.mem_append.1 hc with hc | hc
    · exact h.chain hc
    · rw [List.mem_singleton.1 hc, hchain]
  block {c} hc n := by
    have hblock : ∀ n', Key.block c n ≠ Key.block own n' := fun n' => (Key.block_ne hc n' n).symm
    have hkept := Archive.get?_writes_ne (a := Archive.ofStored bs) (b := b) (m := m) hblock
      (KeyKind.key_ne (by decide) _ _ _ _) (KeyKind.key_ne (by decide) _ _ _ _)
    exact hkept.trans (h.block hc n)
  latest {c} hc := by
    have hlatest : Key.latest c ≠ Key.latest own := (Key.latest_ne hc).symm
    have hkept := Archive.get?_writes_ne (a := Archive.ofStored bs) (b := b) (m := m)
      (fun n => KeyKind.key_ne (by decide) _ _ _ _) (KeyKind.key_ne (by decide) _ _ _ _) hlatest
    exact hkept.trans (h.latest hc)
  number c t := by
    -- The only key of a hash that is written may also be that of another chain's.
    refine ByteMap.get?_insertAll_all (h.number c t) fun e he hkey => ?_
    rcases Archive.mem_writes he with ⟨n', hblock⟩ | rfl | hlatest
    · exact absurd (hblock.symm.trans hkey) (KeyKind.key_ne (by decide) _ _ _ _)
    · exact ⟨b.number, rfl⟩
    · exact absurd (hlatest.symm.trans hkey) (KeyKind.key_ne (by decide) _ _ _ _)
  record txHash := by
    have hkept : recordAt own (m.insertAll ((Archive.ofStored bs).writes own b)) txHash
        = recordAt own m txHash :=
      Archive.get?_writes_ne (fun n => KeyKind.key_ne (by decide) _ _ _ _)
        (KeyKind.key_ne (by decide) _ _ _ _) (KeyKind.key_ne (by decide) _ _ _ _)
    rw [hkept]
    exact h.record txHash

theorem withRecord (h : Sound own bs m) {r : DedupRecord} (hr : r.Fits) :
    Sound own bs (RelayHub.withRecord own m r) where
  archive := h.archive.withRecord r
  chain := h.chain
  block hc n := (get?_withRecord_of_kind r (by decide) _ _).trans (h.block hc n)
  latest hc := (get?_withRecord_of_kind r (by decide) _ _).trans (h.latest hc)
  number c t v hv := by
    rw [Key.hash, get?_withRecord_of_kind r (by decide)] at hv
    exact h.number c t v hv
  record txHash v hv := by
    rw [recordAt_withRecord] at hv
    by_cases hsame : txHash = r.txHash
    · rw [if_pos hsame] at hv
      exact ⟨r, hr, (Option.some.inj hv).symm⟩
    · rw [if_neg hsame] at hv
      exact h.record txHash v hv

/-! ### What is read -/

theorem read_absent {α : Type} {key : Bytes} {decode : Bytes → Except StoreError α}
    (h : m.get? key = none) :
    (BlockStore.read ByteMap.backend key decode).perform m = (.ok none, m) := by
  have hlook : ((ByteMap.backend.get key).mapError StoreError.database).perform m
      = (.ok none, m) := by
    rw [← h]
    rfl
  rw [BlockStore.read, perform_bind_ok hlook]
  rfl

theorem readBlock_perform (h : Sound own bs m) (c : ChainId) (n : UInt64) :
    (readBlock ByteMap.backend c n).perform m
      = (.ok (if own = c then (Archive.ofStored bs).blocks n else none), m) := by
  by_cases hc : own = c
  · subst hc
    rw [if_pos rfl]
    exact Archive.readBlock_perform h.archive n
  · rw [if_neg hc]
    exact read_absent (h.block hc n)

theorem readLatest_perform (h : Sound own bs m) (c : ChainId) :
    (readLatest ByteMap.backend c).perform m
      = (.ok (if own = c then (Archive.ofStored bs).latest.getD 0 else 0), m) := by
  by_cases hc : own = c
  · subst hc
    rw [if_pos rfl]
    exact Archive.readLatest_perform h.archive
  · rw [if_neg hc, readLatest, perform_bind_ok (read_absent (h.latest hc))]
    rfl

theorem readNumber_perform (h : Sound own bs m) (c : ChainId) (t : String) :
    ∃ n, (readNumber ByteMap.backend c t).perform m = (.ok n, m) := by
  cases hget : m.get? (Key.hash c t) with
  | none => exact ⟨none, read_absent hget⟩
  | some v =>
    obtain ⟨n, rfl⟩ := h.number c t v hget
    exact ⟨some n, Archive.read_perform (v := some n) hget fun _ _ => Archive.numberOf_ofWordBE _⟩

theorem readByHash_perform (h : Sound own bs m) (c : ChainId) (t : String) :
    ∃ b, (readByHash ByteMap.backend c t).perform m = (.ok b, m) := by
  obtain ⟨n, hn⟩ := h.readNumber_perform c t
  rw [readByHash, perform_bind_ok hn]
  cases n with
  | none => exact ⟨none, rfl⟩
  | some n => exact ⟨_, h.readBlock_perform c n⟩

theorem readTransaction_perform (h : Sound own bs m) (txHash : String) :
    ∃ r, (readTransaction ByteMap.backend own txHash).perform m = (.ok r, m) := by
  cases hget : recordAt own m txHash with
  | none => exact ⟨none, read_absent hget⟩
  | some v =>
    obtain ⟨r, hr, rfl⟩ := h.record txHash v hget
    exact ⟨some r, transaction_perform hr hget⟩

/-! ### Calls -/

/-- Over a map no call fails, and keys stay in order. -/
theorem call (h : Sound own bs m) {c : StoreCall} (hc : c.Fits own) :
    ∃ v m', ((inMemory own).call c).perform m = (.ok v, m') ∧ Sound own (bs ++ c.stores) m' := by
  have hsame : Sound own (bs ++ []) m := by
    rw [List.append_nil]
    exact h
  cases c with
  | hasSeen txHash => exact ⟨_, m, hasSeen_perform txHash, hsame⟩
  | recordSeen r =>
    have hperform : ((inMemory own).recordSeen r).perform m
        = if seen own m r.txHash then (.ok false, m)
          else (.ok true, RelayHub.withRecord own m r) := recordSeen_perform r
    by_cases hseen : seen own m r.txHash = true
    · rw [if_pos hseen] at hperform
      exact ⟨false, m, hperform, hsame⟩
    · rw [if_neg hseen] at hperform
      refine ⟨true, _, hperform, ?_⟩
      change Sound own (bs ++ []) _
      rw [List.append_nil]
      exact h.withRecord hc
  | storeBlock b =>
    obtain ⟨hchain, hb⟩ := hc
    exact ⟨(), _, Archive.writeBlock_perform h.archive hchain, h.storeBlock hchain hb⟩
  | latest c => exact ⟨_, m, h.readLatest_perform c, hsame⟩
  | byNumber c n => exact ⟨_, m, h.readBlock_perform c n, hsame⟩
  | byHash c t =>
    obtain ⟨b, hb⟩ := h.readByHash_perform c t
    exact ⟨b, m, hb, hsame⟩
  | transaction txHash =>
    obtain ⟨r, hr⟩ := h.readTransaction_perform txHash
    exact ⟨r, m, hr, hsame⟩

end Sound

/-! ## Runs -/

namespace BlockStore

section Runs

variable {b : Backend σ} {entries : σ → ByteMap} (hb : b.Faithful entries) {own : ChainId}
include hb

/-- A call fails by the backend and changes nothing, or does what it does over a
map. -/
theorem of_call {bs : List StoredBlock} {s s' : σ} {c : StoreCall} {r : Except StoreError c.Value}
    (hs : Sound own bs (entries s)) (hc : c.Fits own)
    (h : ((ofBackend own b).call c).perform s = (r, s')) :
    (∃ e, r = .error e ∧ StoreError.CausedBy b.FailsWith e ∧ entries s' = entries s) ∨
      ∃ v, r = .ok v ∧ ((inMemory own).call c).perform (entries s) = (.ok v, entries s') ∧
        Sound own (bs ++ c.stores) (entries s') := by
  obtain ⟨v, m, hmap, hsound⟩ := hs.call hc
  rcases call_tracks hb own c h with ⟨e, he, rfl, hkept⟩ | hdone
  · exact .inl ⟨e, rfl, he, hkept⟩
  · rw [hmap] at hdone
    cases hdone
    exact .inr ⟨v, rfl, hmap, hsound⟩

/-- What a call is answered over a map, it is answered over the backend. -/
theorem answers_of_call {bs : List StoredBlock} {s : σ} {c : StoreCall} {v : c.Value}
    (hs : Sound own bs (entries s)) (hc : c.Fits own)
    (hv : (((inMemory own).call c).perform (entries s)).1 = .ok v) :
    Answers b (((ofBackend own b).call c).perform s).1 v := by
  rcases of_call hb hs hc rfl with ⟨e, he, hcaused, -⟩ | ⟨w, hw, hmap, -⟩
  · exact .inr ⟨e, he, hcaused⟩
  · rw [hmap] at hv
    cases hv
    exact .inl hw

/-- A call that is answered over the backend is answered so over a map. -/
theorem map_answer_of_call {bs : List StoredBlock} {s : σ} {c : StoreCall} {v : c.Value}
    (hs : Sound own bs (entries s)) (hc : c.Fits own)
    (hv : (((ofBackend own b).call c).perform s).1 = .ok v) :
    (((inMemory own).call c).perform (entries s)).1 = .ok v := by
  rcases hcall : ((ofBackend own b).call c).perform s with ⟨r, s'⟩
  rw [hcall] at hv
  obtain rfl : r = .ok v := hv
  rcases of_call hb hs hc hcall with ⟨e, he, -⟩ | ⟨w, hw, hmap, -⟩
  · cases he
  · cases hw
    rw [hmap]

/-- Keys stay in order in a whole run, and no call fails but by the backend. -/
theorem sound_run {calls : List StoreCall} (hcalls : ∀ c ∈ calls, c.Fits own)
    {bs : List StoredBlock} {s s' : σ} {answers : List Answered} (hs : Sound own bs (entries s))
    (h : (ofBackend own b).run calls s = (answers, s')) :
    Sound own (bs ++ stored answers) (entries s') ∧
      ∀ a ∈ answers, ∀ e, a.answer = .error e → StoreError.CausedBy b.FailsWith e := by
  induction calls generalizing bs s answers with
  | nil =>
    cases h
    refine ⟨?_, fun a ha => by cases ha⟩
    change Sound own (bs ++ []) _
    rw [List.append_nil]
    exact hs
  | cons c calls ih =>
    obtain ⟨hc, hrest⟩ := List.forall_mem_cons.1 hcalls
    obtain ⟨r, s₁, rest, hcall, hrun, rfl⟩ := run_cons h
    rcases of_call hb hs hc hcall with ⟨e, rfl, hcaused, hkept⟩ | ⟨v, rfl, -, hsound⟩
    · obtain ⟨hsound', herrors⟩ := ih hrest (hkept ▸ hs) hrun
      refine ⟨hsound', fun a ha e' he' => ?_⟩
      rcases List.mem_cons.1 ha with rfl | ha
      · cases he'
        exact hcaused
      · exact herrors a ha e' he'
    · obtain ⟨hsound', herrors⟩ := ih hrest hsound hrun
      refine ⟨?_, fun a ha e' he' => ?_⟩
      · rw [List.append_assoc] at hsound'
        exact hsound'
      · rcases List.mem_cons.1 ha with rfl | ha
        · cases he'
        · exact herrors a ha e' he'

end Runs

/-! ### What calls cannot do -/

/-- What is true of a block store of a chain whose calls have been answered. -/
structure Reliable (b : Backend σ) (own : ChainId) (entries : σ → ByteMap)
    (answers : List Answered) (s : σ) : Prop where
  /-- Every error is one of the backend's own. -/
  failures {a : Answered} {e : StoreError} : a ∈ answers → a.answer = .error e →
    StoreError.CausedBy b.FailsWith e
  /-- Another call that fails leaves the entries and so all answers as they are. -/
  unchanged {c : StoreCall} {e : StoreError} {s' : σ} : c.Fits own →
    ((ofBackend own b).call c).perform s = (.error e, s') →
    entries s' = entries s ∧ ∀ c' : StoreCall, c'.Fits own →
      ∃ v, Answers b (((ofBackend own b).call c').perform s).1 v ∧
        Answers b (((ofBackend own b).call c').perform s').1 v
  /-- The greatest number is that of the blocks of the chain that were stored. -/
  latest (c : ChainId) : ∃ top, IsTop ((stored answers).filter fun x => x.chain = c) top ∧
    Answers b (((ofBackend own b).latest c).perform s).1 top

/-- Calls of a block store are carried out or fail as a whole and by the backend
alone, whatever blocks they store. -/
theorem run_reliable {b : Backend σ} {entries : σ → ByteMap} (hb : b.Faithful entries)
    {own : ChainId} {calls : List StoreCall} (hcalls : ∀ c ∈ calls, c.Fits own) {s₀ s : σ}
    (hempty : entries s₀ = .empty) {answers : List Answered}
    (h : (ofBackend own b).run calls s₀ = (answers, s)) : Reliable b own entries answers s := by
  obtain ⟨hs, herrors⟩ := sound_run hb hcalls (sound_of_empty own hempty) h
  rw [List.nil_append] at hs
  refine ⟨fun {a e} ha he => herrors a ha e he, ?_, ?_⟩
  · intro c e s' hc hfail
    rcases of_call hb hs hc hfail with ⟨_, -, -, hkept⟩ | ⟨v, hv, -, -⟩
    · refine ⟨hkept, fun c' hc' => ?_⟩
      obtain ⟨v, m, hmap, -⟩ := hs.call hc'
      have hanswer : (((inMemory own).call c').perform (entries s)).1 = .ok v := by rw [hmap]
      refine ⟨v, answers_of_call hb hs hc' hanswer, ?_⟩
      rw [← hkept] at hs hanswer
      exact answers_of_call hb hs hc' hanswer
    · cases hv
  · intro c
    have hanswer := answers_of_call hb hs (c := .latest c) trivial
      (congrArg Prod.fst (hs.readLatest_perform c))
    refine ⟨_, ?_, hanswer⟩
    by_cases hc : own = c
    · have hall : (stored answers).filter (fun x => x.chain = c) = stored answers := by
        refine List.filter_eq_self.2 fun x hx => ?_
        simpa [hs.chain hx] using hc
      rw [if_pos hc, hall]
      exact Archive.ofStored_latest _
    · have hnone : (stored answers).filter (fun x => x.chain = c) = [] := by
        refine List.filter_eq_nil_iff.2 fun x hx => ?_
        simpa [hs.chain hx] using hc
      rw [if_neg hc, hnone]
      exact ⟨List.not_mem_nil.elim, .inl ⟨rfl, rfl⟩⟩

end BlockStore

/-! ### A backend that fails now and then -/

/-- An action that fails without being tried whenever a list says so. -/
def unsteadily {ε α : Type} (e : ε) (a : Action σ ε α) : Action (σ × List Bool) ε α :=
  Action.of fun (s, plan) =>
    match plan with
    | true :: plan => (.error e, s, plan)
    | _ => ((a.perform s).1, (a.perform s).2, plan.tail)

/-- A backend with a list of which of its next operations fail. -/
def Backend.unsteady (b : Backend σ) (e : BackendError) : Backend (σ × List Bool) where
  get key := unsteadily e (b.get key)
  has key := unsteadily e (b.has key)
  put key value := unsteadily e (b.put key value)
  putAll added := unsteadily e (b.putAll added)

theorem unsteadily_tracks {τ ε α : Type} {view : σ → τ} {e : ε} {a : Action σ ε α}
    {m : Action τ ε α} (ha : Tracks view (fun _ => True) a m) :
    Tracks (fun s : σ × List Bool => view s.1) (fun _ => True) (unsteadily e a) m := by
  rintro ⟨s, plan⟩ ⟨s', plan'⟩ r h
  rw [unsteadily, perform_of] at h
  rcases plan with _ | ⟨fails, plan⟩
  · cases h
    exact ha rfl
  · cases fails with
    | true =>
      cases h
      exact .inl ⟨e, trivial, rfl, rfl⟩
    | false =>
      cases h
      exact ha rfl

theorem Backend.unsteady_faithful {b : Backend σ} {entries : σ → ByteMap}
    (hb : b.Faithful entries) (e : BackendError) :
    (b.unsteady e).Faithful fun s => entries s.1 where
  get key := unsteadily_tracks (hb.get key)
  has key := unsteadily_tracks (hb.has key)
  put key value := unsteadily_tracks (hb.put key value)
  putAll added := unsteadily_tracks (hb.putAll added)

namespace BlockStore

/-- A block that nothing is known of but its place in a chain. -/
def plainBlock (n : UInt64) (previousHash hash : String) : StoredBlock :=
  ⟨⟨"A"⟩, n, previousHash, hash, "", 0, 0, [], none⟩

theorem plainBlock_fits {n : UInt64} {previousHash hash : String}
    (hprevious : Layout.FitsText previousHash) (hhash : Layout.FitsText hash)
    (nextHash : Option String) (hnext : ∀ t ∈ nextHash, Layout.FitsText t) :
    { plainBlock n previousHash hash with nextHash }.Fits where
  chain := by
    change Layout.FitsText "A"
    decide
  previousHash := hprevious
  hash := hhash
  dataHash := by
    change Layout.FitsText ""
    decide
  origin := by
    change Layout.FitsHex []
    decide
  nextHash := hnext

/-- A block that is linked already, and one that is stored under the same
number. -/
def rivalBlocks : StoredBlock × StoredBlock :=
  ({ plainBlock 1 "" "h1" with nextHash := some "h9" }, plainBlock 1 "h1" "h2")

/-- The second block is stored in vain, and then once more. -/
def rivalCalls : List StoreCall :=
  [.storeBlock rivalBlocks.1, .storeBlock rivalBlocks.2, .latest ⟨"A"⟩, .byHash ⟨"A"⟩ "h2",
    .storeBlock rivalBlocks.2, .byHash ⟨"A"⟩ "h1"]

/-- A backend whose eighth operation fails. -/
def rivalStart : ByteMap × List Bool :=
  (.empty, [false, false, false, false, false, false, false, true])

/-- What is answered, and what is left. -/
def rivalRun : List Answered × ByteMap × List Bool :=
  (ofBackend ⟨"A"⟩ (ByteMap.backend.unsteady (.io "busy"))).run rivalCalls rivalStart

/-- The failure is the backend's, and what failed is done later as if it had not
been tried. -/
theorem rivalRun_reliable :
    rivalRun.1 =
      [⟨.storeBlock rivalBlocks.1, .ok ()⟩,
        ⟨.storeBlock rivalBlocks.2, .error (.database (.io "busy"))⟩, ⟨.latest ⟨"A"⟩, .ok (1 : UInt64)⟩,
        ⟨.byHash ⟨"A"⟩ "h2", .ok none⟩, ⟨.storeBlock rivalBlocks.2, .ok ()⟩,
        ⟨.byHash ⟨"A"⟩ "h1", .ok (some rivalBlocks.2)⟩] ∧
    Reliable (ByteMap.backend.unsteady (.io "busy")) ⟨"A"⟩ (fun s => s.1) rivalRun.1
      rivalRun.2 := by
  have hfirst : rivalBlocks.1.Fits :=
    plainBlock_fits (by decide) (by decide) (some "h9") (by decide)
  have hsecond : rivalBlocks.2.Fits := plainBlock_fits (by decide) (by decide) none (by decide)
  have hfits : ∀ c ∈ rivalCalls, c.Fits ⟨"A"⟩ := by
    intro c hc
    simp only [rivalCalls, List.mem_cons, List.not_mem_nil, or_false] at hc
    rcases hc with rfl | rfl | rfl | rfl | rfl | rfl
    · exact ⟨rfl, hfirst⟩
    · exact ⟨rfl, hsecond⟩
    · trivial
    · trivial
    · exact ⟨rfl, hsecond⟩
    · trivial
  have hfaithful := Backend.unsteady_faithful ByteMap.backend_faithful (.io "busy")
  have hempty : rivalStart.1 = .empty := rfl
  exact ⟨rfl, run_reliable hfaithful hfits hempty rfl⟩

end BlockStore

end RelayHub
