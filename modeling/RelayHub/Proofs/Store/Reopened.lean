/-
Backends that are opened again.

A backend that lasts does what a map does, or fails, and holds the same entries
when it is opened again. A store in a file lasts as long as its file holds what the
store does. That is so from the start, and no write ends it: one that fails leaves
both as they were. So a store in a file lasts on the states where it is so.
-/
import RelayHub.Proofs.Store.Durable

set_option autoImplicit false

namespace RelayHub

open RelayHub.Action

variable {σ φ : Type}

/-- A backend that does what a map does, or fails, and that holds what it held when
it is opened again. -/
structure Backend.Lasting (b : Backend σ) (reopens : σ → Except BackendError Unit → σ → Prop)
    (entries : σ → ByteMap) : Prop where
  faithful : b.Faithful entries
  reopened {s s' : σ} {r : Except BackendError Unit} : reopens s r s' → entries s' = entries s

/-! ## Backends on some of their states -/

section Restricted

variable {inv : σ → Prop}

/-- An action on the states that satisfy a condition which it does not end. -/
def Action.restrict {ε α : Type} (a : Action σ ε α) (h : ∀ {s}, inv s → inv (a.perform s).2) :
    Action { s // inv s } ε α :=
  .of fun s => ((a.perform s.1).1, ⟨(a.perform s.1).2, h s.2⟩)

theorem Action.Tracks.restrict {τ ε α : Type} {view : σ → τ} {excused : ε → Prop}
    {a : Action σ ε α} {m : Action τ ε α} (ha : Tracks view excused a m)
    (h : ∀ {s}, inv s → inv (a.perform s).2) :
    Tracks (fun s : { s // inv s } => view s.1) excused (a.restrict h) m := by
  intro s s' r hr
  cases hr
  exact ha rfl

namespace Backend

/-- A condition that no operation of a backend ends. -/
structure Preserves (b : Backend σ) (inv : σ → Prop) : Prop where
  get (key : Bytes) {s : σ} : inv s → inv ((b.get key).perform s).2
  has (key : Bytes) {s : σ} : inv s → inv ((b.has key).perform s).2
  put (key value : Bytes) {s : σ} : inv s → inv ((b.put key value).perform s).2
  putAll (added : List (Bytes × Bytes)) {s : σ} : inv s → inv ((b.putAll added).perform s).2

/-- A backend on the states that satisfy such a condition. -/
def restrict (b : Backend σ) (h : b.Preserves inv) : Backend { s // inv s } where
  get key := (b.get key).restrict (h.get key)
  has key := (b.has key).restrict (h.has key)
  put key value := (b.put key value).restrict (h.put key value)
  putAll added := (b.putAll added).restrict (h.putAll added)

theorem restrict_faithful {b : Backend σ} (h : b.Preserves inv) {entries : σ → ByteMap}
    (hb : b.Faithful entries) : (b.restrict h).Faithful fun s => entries s.1 where
  get key := (hb.get key).restrict (h.get key)
  has key := (hb.has key).restrict (h.has key)
  put key value := (hb.put key value).restrict (h.put key value)
  putAll added := (hb.putAll added).restrict (h.putAll added)

end Backend

end Restricted

/-! ## Stores in files -/

namespace FileStore

/-- A store in the file at a path that holds what the store does, if that fits into
a file. -/
structure Saved (content : φ → Path → Option Bytes) (path : Path) (u : φ × FileStore) : Prop where
  located : u.2.path = path
  file : u.2.entries.Fits → Holds (content u.1 path) u.2.entries

/-- A store is opened again from its file, or goes on if that has failed. What it
holds are entries that fit into a file, as all that are in memory do. -/
inductive Reopens (files : FileSystem φ) :
    φ × FileStore → Except BackendError Unit → φ × FileStore → Prop where
  | opened {s s' : φ} {store store' : FileStore} (hfits : store.entries.Fits)
      (h : (openAt files store.path).perform s = (.ok store', s')) :
      Reopens files (s, store) (.ok ()) (s', store')
  | failed {s s' : φ} {store : FileStore} {e : BackendError} (hfits : store.entries.Fits)
      (h : (openAt files store.path).perform s = (.error e, s')) :
      Reopens files (s, store) (.error e) (s', store)

section Files

variable {files : FileSystem φ} {torn : FileStep → φ → φ → Prop}
  {content : φ → Path → Option Bytes} {path : Path}
  (hfiles : files.Orderly torn content path (path.withExtension "tmp"))
include hfiles

/-- A store that is opened again is as it was, and so is its file. -/
theorem of_reopens {u u' : φ × FileStore} {r : Except BackendError Unit}
    (hu : Saved content path u) (h : Reopens files u r u') :
    u'.2 = u.2 ∧ content u'.1 path = content u.1 path := by
  obtain ⟨hpath, hfile⟩ := hu
  cases h with
  | @opened s s' store store' hfits h =>
    obtain rfl : store.path = path := hpath
    obtain ⟨hkept, hr | ⟨e, hr, -⟩⟩ := openAt_perform hfiles (hfile hfits) h
    · cases hr
      exact ⟨rfl, hkept⟩
    · cases hr
  | @failed s s' store e hfits h =>
    obtain rfl : store.path = path := hpath
    obtain ⟨hkept, -⟩ := openAt_perform hfiles (hfile hfits) h
    exact ⟨rfl, hkept⟩

/-- The file goes on holding what the store does. -/
theorem Saved.reopens {u u' : φ × FileStore} {r : Except BackendError Unit}
    (hu : Saved content path u) (h : Reopens files u r u') : Saved content path u' := by
  obtain ⟨hstore, hcontent⟩ := of_reopens hfiles hu h
  refine ⟨?_, ?_⟩
  · rw [hstore]
    exact hu.located
  · rw [hstore, hcontent]
    exact hu.file

variable (hpath : path.extension? ≠ some "tmp")
include hpath

theorem Saved.change {c : Change} {u : φ × FileStore} (hu : Saved content path u) :
    Saved content path ((c.on (backend files)).perform u).2 := by
  obtain ⟨s, store⟩ := u
  obtain ⟨hsame, hfile⟩ := hu
  obtain rfl : store.path = path := hsame
  rcases hrun : (c.on (backend files)).perform (s, store) with ⟨r, s', store'⟩
  obtain ⟨hsave, hstore⟩ := Change.on_perform hrun
  rcases content_of_save hfiles hpath hsave with ⟨e, rfl, hold⟩ | ⟨rfl, hnew⟩
  · obtain ⟨-, -, rfl⟩ | ⟨⟨⟩, -⟩ := hstore
    refine ⟨rfl, ?_⟩
    dsimp only
    rw [hold]
    exact hfile
  · obtain ⟨_, ⟨⟩, -⟩ | ⟨-, rfl⟩ := hstore
    refine ⟨rfl, fun hfits => ?_⟩
    dsimp only
    rw [hnew]
    exact holds_encode hfits

/-- No operation ends it that the file holds what the store does. -/
theorem saved_preserved : (backend files).Preserves (Saved content path) where
  get _ _ hu := hu
  has _ _ hu := hu
  put key value _ hu := Saved.change hfiles hpath (c := .put key value) hu
  putAll added _ hu := Saved.change hfiles hpath (c := .putAll added) hu

/-- A store in a file, on the states where the file holds what the store does,
lasts. -/
theorem backend_lasting :
    ((backend files).restrict (saved_preserved hfiles hpath)).Lasting
      (fun u r u' => Reopens files u.1 r u'.1) fun u => u.1.2.entries where
  faithful := Backend.restrict_faithful _ (backend_faithful files)
  reopened {u _ _} h := by rw [(of_reopens hfiles u.2 h).1]

end Files

end FileStore

end RelayHub
