/-
Stores that may fail, but do not lie.

A faithful backend either does to its entries what a map does or fails and
leaves them alone, and a faithful block store does the same with the block
store over a map. The second follows from the first: an operation of the block
store reads, and then writes once at most. So what holds of block stores over a
map holds of those in files and of those that fail now and then.
-/
import RelayHub.Proofs.Action
import RelayHub.Proofs.Store.ByteMap
import RelayHub.Store.BlockStore
import RelayHub.Store.Memory

set_option autoImplicit false

namespace RelayHub

open RelayHub.Action

variable {σ : Type}

/-! ## Backends -/

/-- A backend whose operations do what a map does, or fail. -/
structure Backend.Faithful (b : Backend σ) (entries : σ → ByteMap) : Prop where
  get (key : Bytes) : Tracks entries (fun _ => True) (b.get key) (ByteMap.backend.get key)
  has (key : Bytes) : Tracks entries (fun _ => True) (b.has key) (ByteMap.backend.has key)
  put (key value : Bytes) :
    Tracks entries (fun _ => True) (b.put key value) (ByteMap.backend.put key value)
  putAll (added : List (Bytes × Bytes)) :
    Tracks entries (fun _ => True) (b.putAll added) (ByteMap.backend.putAll added)

/-- A map is faithful to itself. -/
theorem ByteMap.backend_faithful : ByteMap.backend.Faithful id where
  get _ := fun _ _ _ h => .inr h
  has _ := fun _ _ _ h => .inr h
  put _ _ := fun _ _ _ h => .inr h
  putAll _ := fun _ _ _ h => .inr h

/-- Either the file is replaced, and then the entries are, or the entries are
changed once more. -/
theorem FileStore.replace_perform {φ : Type} (files : FileSystem φ) (entries undone : ByteMap)
    (s : φ) (store : FileStore) :
    (∃ e s', (save files store.path entries).perform s = (.error e, s') ∧
        (replace files entries undone).perform (s, store)
          = (.error e, s', { store with entries := undone })) ∨
      ∃ s', (save files store.path entries).perform s = (.ok (), s') ∧
        (replace files entries undone).perform (s, store)
          = (.ok (), s', { store with entries }) := by
  rw [replace, perform_of]
  dsimp only
  rcases (save files store.path entries).perform s with ⟨e | _, s'⟩
  · exact .inl ⟨e, s', rfl, rfl⟩
  · exact .inr ⟨s', rfl, rfl⟩

/-- A store in a file is faithful, whatever the file system does: what it
answers from is in memory, where a write that was not saved is undone. -/
theorem FileStore.backend_faithful {φ : Type} (files : FileSystem φ) :
    (backend files).Faithful fun s => s.2.entries where
  get _ := fun _ _ _ h => by cases h; exact .inr rfl
  has _ := fun _ _ _ h => by cases h; exact .inr rfl
  put key value := by
    rintro ⟨s, store⟩ s' r h
    rw [backend, perform_of] at h
    dsimp only at h
    rw [ByteMap.restore_insert] at h
    rcases replace_perform files (store.entries.insert key value) store.entries s store with
      ⟨e, s₁, -, hfail⟩ | ⟨s₁, -, hok⟩
    · rw [hfail] at h
      cases h
      exact .inl ⟨e, trivial, rfl, rfl⟩
    · rw [hok] at h
      cases h
      exact .inr rfl
  putAll added := by
    rintro ⟨s, store⟩ s' r h
    rw [backend, perform_of] at h
    dsimp only at h
    rcases replace_perform files (store.entries.insertAll added) store.entries s store with
      ⟨e, s₁, -, hfail⟩ | ⟨s₁, -, hok⟩
    · rw [hfail] at h
      cases h
      exact .inl ⟨e, trivial, rfl, rfl⟩
    · rw [hok] at h
      cases h
      exact .inr rfl

/-- A backend whose operations do what a map does, or fail for an excused
reason. -/
structure Backend.Follows (b : Backend σ) (entries : σ → ByteMap) (excused : BackendError → Prop) :
    Prop where
  get (key : Bytes) : Tracks entries excused (b.get key) (ByteMap.backend.get key)
  has (key : Bytes) : Tracks entries excused (b.has key) (ByteMap.backend.has key)
  put (key value : Bytes) : Tracks entries excused (b.put key value) (ByteMap.backend.put key value)
  putAll (added : List (Bytes × Bytes)) :
    Tracks entries excused (b.putAll added) (ByteMap.backend.putAll added)

/-- An error that one of the operations of a backend fails with, in some
state. -/
inductive Backend.FailsWith (b : Backend σ) (e : BackendError) : Prop where
  | get (key : Bytes) (s : σ) (h : ((b.get key).perform s).1 = .error e)
  | has (key : Bytes) (s : σ) (h : ((b.has key).perform s).1 = .error e)
  | put (key value : Bytes) (s : σ) (h : ((b.put key value).perform s).1 = .error e)
  | putAll (added : List (Bytes × Bytes)) (s : σ) (h : ((b.putAll added).perform s).1 = .error e)

/-- A faithful backend does what a map does, or fails with errors of its own. -/
theorem Backend.Faithful.follows {b : Backend σ} {entries : σ → ByteMap} (hb : b.Faithful entries) :
    b.Follows entries b.FailsWith where
  get key := (hb.get key).imp fun s _ h _ => .get key s h
  has key := (hb.has key).imp fun s _ h _ => .has key s h
  put key value := (hb.put key value).imp fun s _ h _ => .put key value s h
  putAll added := (hb.putAll added).imp fun s _ h _ => .putAll added s h

/-- A backend that can always be read. -/
def Backend.Readable (b : Backend σ) : Prop :=
  ∀ key s, ∃ v, ((b.get key).perform s).1 = .ok v

theorem ByteMap.backend_readable : ByteMap.backend.Readable :=
  fun _ _ => ⟨_, rfl⟩

/-- A store in a file is read in memory. -/
theorem FileStore.backend_readable {φ : Type} (files : FileSystem φ) : (backend files).Readable :=
  fun _ _ => ⟨_, rfl⟩

/-- What is read of a faithful backend that can be read is what a map answers. -/
theorem Backend.Faithful.reads {b : Backend σ} {entries : σ → ByteMap} (hb : b.Faithful entries)
    (hreads : b.Readable) (key : Bytes) :
    Tracks entries (fun _ => False) (b.get key) (ByteMap.backend.get key) := by
  refine (hb.get key).imp fun s e he _ => ?_
  obtain ⟨v, hv⟩ := hreads key s
  rw [hv] at he
  cases he

/-- A backend whose operations leave something alone. -/
structure Backend.Spares {γ : Type} (b : Backend σ) (view : σ → γ) : Prop where
  get (key : Bytes) : Keeps view (b.get key)
  has (key : Bytes) : Keeps view (b.has key)
  put (key value : Bytes) : Keeps view (b.put key value)
  putAll (added : List (Bytes × Bytes)) : Keeps view (b.putAll added)

/-- A backend in a part of a state spares all that is not in the part. -/
theorem Backend.within_spares {τ γ : Type} (b : Backend τ) (part : Part σ τ) {view : σ → γ}
    (hpart : ∀ t s, view (part.set t s) = view s) : (b.within part).Spares view where
  get _ := .within part hpart _
  has _ := .within part hpart _
  put _ _ := .within part hpart _
  putAll _ := .within part hpart _

/-! ## Block stores -/

/-- A failure of what a block store keeps its records in. -/
def StoreError.IsDatabase (e : StoreError) : Prop :=
  ∃ cause, e = .database cause

/-- Such a failure, for one of some reasons. -/
def StoreError.CausedBy (reasons : BackendError → Prop) (e : StoreError) : Prop :=
  ∃ cause, reasons cause ∧ e = .database cause

theorem StoreError.CausedBy.isDatabase {reasons : BackendError → Prop} {e : StoreError}
    (h : CausedBy reasons e) : e.IsDatabase :=
  let ⟨cause, _, he⟩ := h
  ⟨cause, he⟩

namespace BlockStore

/-- The block store of a chain over a map. -/
abbrev inMemory (chain : ChainId) : BlockStore ByteMap :=
  ofBackend chain ByteMap.backend

/-- A block store whose operations do what the block store over a map does, or
fail. -/
structure Faithful (store : BlockStore σ) (chain : ChainId) (entries : σ → ByteMap) : Prop where
  hasSeen (txHash : String) :
    Tracks entries StoreError.IsDatabase (store.hasSeen txHash) ((inMemory chain).hasSeen txHash)
  recordSeen (r : DedupRecord) :
    Tracks entries StoreError.IsDatabase (store.recordSeen r) ((inMemory chain).recordSeen r)
  storeBlock (b : StoredBlock) :
    Tracks entries StoreError.IsDatabase (store.storeBlock b) ((inMemory chain).storeBlock b)
  latest (c : ChainId) :
    Tracks entries StoreError.IsDatabase (store.latest c) ((inMemory chain).latest c)
  byNumber (c : ChainId) (n : UInt64) :
    Tracks entries StoreError.IsDatabase (store.byNumber c n) ((inMemory chain).byNumber c n)
  byHash (c : ChainId) (h : String) :
    Tracks entries StoreError.IsDatabase (store.byHash c h) ((inMemory chain).byHash c h)
  transaction (txHash : String) :
    Tracks entries StoreError.IsDatabase (store.transaction txHash)
      ((inMemory chain).transaction txHash)

/-! ### What operations leave alone -/

/-- A block store whose operations leave something alone. -/
structure Spares {γ : Type} (store : BlockStore σ) (view : σ → γ) : Prop where
  hasSeen (txHash : String) : Keeps view (store.hasSeen txHash)
  recordSeen (r : DedupRecord) : Keeps view (store.recordSeen r)
  storeBlock (b : StoredBlock) : Keeps view (store.storeBlock b)
  latest (c : ChainId) : Keeps view (store.latest c)
  byNumber (c : ChainId) (n : UInt64) : Keeps view (store.byNumber c n)
  byHash (c : ChainId) (h : String) : Keeps view (store.byHash c h)
  transaction (txHash : String) : Keeps view (store.transaction txHash)

section Reads

variable {b : Backend σ} {γ : Type} {view : σ → γ} (hget : ∀ key, Keeps view (b.get key))
include hget

theorem read_keeps {α : Type} (key : Bytes) (decode : Bytes → Except StoreError α) :
    Keeps view (read b key decode) := by
  refine (hget key).mapError.bind fun found => ?_
  cases found with
  | none => exact .pure _
  | some bytes => exact (Keeps.ofExcept _).bind fun v => .pure _

theorem readNumber_keeps (chain : ChainId) (hash : String) :
    Keeps view (readNumber b chain hash) :=
  read_keeps hget _ _

theorem readBlock_keeps (chain : ChainId) (number : UInt64) :
    Keeps view (readBlock b chain number) :=
  read_keeps hget _ _

theorem readLatest_keeps (chain : ChainId) : Keeps view (readLatest b chain) :=
  (read_keeps hget _ _).bind fun _ => .pure _

theorem readByHash_keeps (chain : ChainId) (hash : String) : Keeps view (readByHash b chain hash) := by
  refine (readNumber_keeps hget _ _).bind fun number => ?_
  cases number with
  | none => exact .pure _
  | some number => exact readBlock_keeps hget _ _

theorem linkEntry_keeps (block : StoredBlock) : Keeps view (linkEntry b block) := by
  unfold linkEntry
  split
  · exact .pure _
  · refine (readNumber_keeps hget _ _).bind fun number => ?_
    cases number with
    | none => exact .pure _
    | some number =>
      refine (readBlock_keeps hget _ _).bind fun previous => ?_
      cases previous with
      | none => exact .throw _
      | some previous =>
        dsimp only
        split
        · exact .pure _
        · exact .pure _

theorem latestEntry_keeps (block : StoredBlock) : Keeps view (latestEntry b block) :=
  (readLatest_keeps hget _).bind fun _ => .pure _

end Reads

section Writes

variable {b : Backend σ} {γ : Type} {view : σ → γ} (hb : b.Spares view)
include hb

theorem recordOnce_keeps (chain : ChainId) (r : DedupRecord) :
    Keeps view (recordOnce b chain r) := by
  refine (hb.has _).mapError.bind fun seen => ?_
  cases seen with
  | true => exact .pure _
  | false => exact (hb.put _ _).mapError.bind fun _ => .pure _

theorem writeBlock_keeps (block : StoredBlock) : Keeps view (writeBlock b block) := by
  refine (readBlock_keeps hb.get _ _).bind fun existing => ?_
  refine (linkEntry_keeps hb.get _).bind fun link => ?_
  refine (latestEntry_keeps hb.get _).bind fun latest => ?_
  exact (hb.putAll _).mapError

/-- What a backend spares, a block store over it spares. -/
theorem ofBackend_spares (chain : ChainId) : (ofBackend chain b).Spares view where
  hasSeen _ := (hb.has _).mapError
  recordSeen := recordOnce_keeps hb chain
  storeBlock := writeBlock_keeps hb
  latest := readLatest_keeps hb.get
  byNumber := readBlock_keeps hb.get
  byHash := readByHash_keeps hb.get
  transaction _ := read_keeps hb.get _ _

end Writes

/-- Reads of a map leave the map as it is. -/
theorem get_keeps (key : Bytes) : Keeps id (ByteMap.backend.get key) :=
  .look _

theorem hasSeen_keeps (chain : ChainId) (txHash : String) :
    Keeps id ((inMemory chain).hasSeen txHash) :=
  fun _ _ _ h => by cases h; rfl

/-! ### Operations over a backend that follows a map -/

section Reads

variable {b : Backend σ} {entries : σ → ByteMap} {excused : BackendError → Prop}
  (hget : ∀ key, Tracks entries excused (b.get key) (ByteMap.backend.get key))
include hget

theorem read_tracks {α : Type} (key : Bytes) (decode : Bytes → Except StoreError α) :
    Tracks entries (StoreError.CausedBy excused) (read b key decode)
      (read ByteMap.backend key decode) := by
  have hfailed : ∀ e, excused e → StoreError.CausedBy excused (.database e) :=
    fun e he => ⟨e, he, rfl⟩
  refine ((hget key).mapError hfailed).bind (get_keeps key).mapError fun found => ?_
  cases found with
  | none => exact .pure _
  | some bytes => exact (Tracks.ofExcept _).map some

theorem readNumber_tracks (chain : ChainId) (hash : String) :
    Tracks entries (StoreError.CausedBy excused) (readNumber b chain hash)
      (readNumber ByteMap.backend chain hash) :=
  read_tracks hget _ _

theorem readBlock_tracks (chain : ChainId) (number : UInt64) :
    Tracks entries (StoreError.CausedBy excused) (readBlock b chain number)
      (readBlock ByteMap.backend chain number) :=
  read_tracks hget _ _

theorem readLatest_tracks (chain : ChainId) :
    Tracks entries (StoreError.CausedBy excused) (readLatest b chain)
      (readLatest ByteMap.backend chain) :=
  (read_tracks hget _ _).map fun n => n.getD 0

theorem readByHash_tracks (chain : ChainId) (hash : String) :
    Tracks entries (StoreError.CausedBy excused) (readByHash b chain hash)
      (readByHash ByteMap.backend chain hash) := by
  refine (readNumber_tracks hget _ _).bind (readNumber_keeps get_keeps _ _) fun number => ?_
  cases number with
  | none => exact .pure _
  | some number => exact readBlock_tracks hget _ _

theorem linkEntry_tracks (block : StoredBlock) :
    Tracks entries (StoreError.CausedBy excused) (linkEntry b block)
      (linkEntry ByteMap.backend block) := by
  rw [linkEntry, linkEntry]
  split
  · exact .pure _
  · refine (readNumber_tracks hget _ _).bind (readNumber_keeps get_keeps _ _) fun number => ?_
    cases number with
    | none => exact .pure _
    | some number =>
      refine (readBlock_tracks hget _ _).bind (readBlock_keeps get_keeps _ _) fun previous => ?_
      cases previous with
      | none => exact .throw _
      | some previous =>
        dsimp only
        split
        · exact .pure _
        · exact .pure _

theorem latestEntry_tracks (block : StoredBlock) :
    Tracks entries (StoreError.CausedBy excused) (latestEntry b block)
      (latestEntry ByteMap.backend block) :=
  (readLatest_tracks hget _).map _

end Reads

section Writes

variable {b : Backend σ} {entries : σ → ByteMap} {excused : BackendError → Prop}
  (hb : b.Follows entries excused)
include hb

theorem hasSeen_tracks (key : Bytes) :
    Tracks entries (StoreError.CausedBy excused) ((b.has key).mapError .database)
      ((ByteMap.backend.has key).mapError .database) :=
  (hb.has key).mapError fun e he => ⟨e, he, rfl⟩

theorem recordOnce_tracks (chain : ChainId) (r : DedupRecord) :
    Tracks entries (StoreError.CausedBy excused) (recordOnce b chain r)
      (recordOnce ByteMap.backend chain r) := by
  refine (hasSeen_tracks hb _).bind (Keeps.look _).mapError fun seen => ?_
  cases seen with
  | true => exact .pure _
  | false => exact ((hb.put _ _).mapError fun e he => ⟨e, he, rfl⟩).map fun _ => true

theorem writeBlock_tracks (block : StoredBlock) :
    Tracks entries (StoreError.CausedBy excused) (writeBlock b block)
      (writeBlock ByteMap.backend block) := by
  refine (readBlock_tracks hb.get _ _).bind (readBlock_keeps get_keeps _ _) fun existing => ?_
  refine (linkEntry_tracks hb.get _).bind (linkEntry_keeps get_keeps _) fun link => ?_
  refine (latestEntry_tracks hb.get _).bind (latestEntry_keeps get_keeps _) fun latest => ?_
  exact (hb.putAll _).mapError fun e he => ⟨e, he, rfl⟩

end Writes

/-- A block store over a faithful backend is faithful. -/
theorem ofBackend_faithful {b : Backend σ} {entries : σ → ByteMap} (hb : b.Faithful entries)
    (chain : ChainId) : (ofBackend chain b).Faithful chain entries := by
  have hfollows := hb.follows
  have hloose : ∀ {α : Type} {a : Action σ StoreError α} {m : Action ByteMap StoreError α},
      Tracks entries (StoreError.CausedBy b.FailsWith) a m →
        Tracks entries StoreError.IsDatabase a m :=
    fun h => h.imp fun _ _ _ he => he.isDatabase
  exact {
    hasSeen txHash := hloose (hasSeen_tracks hfollows _)
    recordSeen r := hloose (recordOnce_tracks hfollows chain r)
    storeBlock block := hloose (writeBlock_tracks hfollows block)
    latest c := hloose (readLatest_tracks hfollows.get c)
    byNumber c n := hloose (readBlock_tracks hfollows.get c n)
    byHash c h := hloose (readByHash_tracks hfollows.get c h)
    transaction txHash := hloose (read_tracks hfollows.get _ _) }

end BlockStore

end RelayHub
