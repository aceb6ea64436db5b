/-
Stores in files survive.

A save prepares a temporary file and moves it over the real one. Whatever
happens to it - an operation fails, or the process is stopped between two of
them or in the middle of one - the real file then holds the old entries or all
of the new ones; if it ends, it holds the new ones, and if it fails, the old
ones. So a store that is opened, read, written, stopped and opened again answers
as a map in memory does that only the successful writes are made to.
-/
import RelayHub.Proofs.Files.Orderly
import RelayHub.Proofs.Store.Faithful
import RelayHub.Store.File

set_option autoImplicit false

namespace RelayHub

open RelayHub.Action

variable {φ σ : Type}

/-! ## Operations one after the other -/

namespace FileSystem

/-- What a list of operations may leave behind that is stopped: between two of
them, or with one that is broken off, or that fails. -/
inductive Interrupted (files : FileSystem φ) (torn : FileStep → φ → φ → Prop) :
    List FileStep → φ → φ → Prop where
  | between (steps : List FileStep) (s : φ) : Interrupted files torn steps s s
  | within {step : FileStep} (rest : List FileStep) {s s' : φ} (h : files.Leaves torn step s s') :
      Interrupted files torn (step :: rest) s s'
  | after {step : FileStep} {rest : List FileStep} {s s₁ s' : φ}
      (h : files.perform step s = (.ok (), s₁)) (hrest : Interrupted files torn rest s₁ s') :
      Interrupted files torn (step :: rest) s s'

end FileSystem

namespace FileStore

section Operations

variable {files : FileSystem φ} {torn : FileStep → φ → φ → Prop}

theorem performAll_cons (files : FileSystem φ) (step : FileStep) (steps : List FileStep) (s : φ) :
    (performAll files (step :: steps)).perform s =
      match files.perform step s with
      | (.ok (), s) => (performAll files steps).perform s
      | (.error e, s) => (.error e, s) := rfl

/-- Operations that all end well, one after the other. -/
theorem of_performAll_ok {step : FileStep} {steps : List FileStep} {s s' : φ}
    (h : (performAll files (step :: steps)).perform s = (.ok (), s')) :
    ∃ s₁, files.perform step s = (.ok (), s₁) ∧ (performAll files steps).perform s₁ = (.ok (), s') := by
  rw [performAll_cons] at h
  rcases hstep : files.perform step s with ⟨e | _, s₁⟩
  · rw [hstep] at h
    cases h
  · rw [hstep] at h
    exact ⟨s₁, rfl, h⟩

/-- A list of operations ends in its first part, or the rest starts where that
part has ended. -/
theorem of_performAll_append {first last : List FileStep} {s s' : φ} {r : Except FileError Unit}
    (h : (performAll files (first ++ last)).perform s = (r, s')) :
    (∃ e, r = .error e ∧ (performAll files first).perform s = (.error e, s')) ∨
      ∃ s₁, (performAll files first).perform s = (.ok (), s₁) ∧
        (performAll files last).perform s₁ = (r, s') := by
  induction first generalizing s with
  | nil => exact .inr ⟨s, rfl, h⟩
  | cons step first ih =>
    rw [List.cons_append, performAll_cons] at h
    rw [performAll_cons]
    rcases hstep : files.perform step s with ⟨e | _, s₁⟩
    · rw [hstep] at h
      cases h
      exact .inl ⟨e, rfl, rfl⟩
    · rw [hstep] at h
      exact ih h

/-- Operations that are carried out, as far as they can be, leave behind what
they may when they are stopped. -/
theorem interrupted_of_performAll (torn : FileStep → φ → φ → Prop) {steps : List FileStep}
    {s s' : φ} {r : Except FileError Unit} (h : (performAll files steps).perform s = (r, s')) :
    files.Interrupted torn steps s s' := by
  induction steps generalizing s with
  | nil =>
    cases h
    exact .between [] _
  | cons step steps ih =>
    rw [performAll_cons] at h
    rcases hstep : files.perform step s with ⟨e | _, s₁⟩
    · rw [hstep] at h
      cases h
      exact .within steps (.ended _ hstep)
    · rw [hstep] at h
      exact .after hstep (ih h)

/-- What each operation leaves alone, so do all of them. -/
theorem interrupted_keeps {γ : Type} {view : φ → γ} {steps : List FileStep} {s s' : φ}
    (hsteps : ∀ step ∈ steps, ∀ s s', files.Leaves torn step s s' → view s' = view s)
    (h : files.Interrupted torn steps s s') : view s' = view s := by
  induction h with
  | between steps s => rfl
  | within rest h => exact hsteps _ List.mem_cons_self _ _ h
  | after h _ ih =>
    have hrest := ih fun step hstep => hsteps step (List.mem_cons_of_mem _ hstep)
    have hfirst := hsteps _ List.mem_cons_self _ _ (.ended _ h)
    rw [hrest, hfirst]

/-- Operations are stopped in their first part, or the first part has ended
well. -/
theorem of_interrupted_append {first last : List FileStep} {s s' : φ}
    (h : files.Interrupted torn (first ++ last) s s') :
    files.Interrupted torn first s s' ∨
      ∃ s₁, (performAll files first).perform s = (.ok (), s₁) ∧
        files.Interrupted torn last s₁ s' := by
  induction first generalizing s with
  | nil => exact .inr ⟨s, rfl, h⟩
  | cons step first ih =>
    rw [List.cons_append] at h
    rcases h with _ | ⟨_, h⟩ | ⟨hstep, hrest⟩
    · exact .inl (.between _ _)
    · exact .inl (.within first h)
    · rcases ih hrest with hfirst | ⟨s₁, hfirst, hlast⟩
      · exact .inl (.after hstep hfirst)
      · refine .inr ⟨s₁, ?_, hlast⟩
        rw [performAll_cons, hstep]
        exact hfirst

end Operations

/-! ## Saving -/

/-- All that a save does before the temporary file is moved. -/
def preparation (path : Path) (entries : ByteMap) : List FileStep :=
  path.parent?.toList.map FileStep.makeDirectories ++
    [.create (path.withExtension "tmp"), .append (path.withExtension "tmp") entries.encode,
      .sync (path.withExtension "tmp")]

theorem saveSteps_eq (path : Path) (entries : ByteMap) :
    saveSteps path entries
      = preparation path entries ++ [.rename (path.withExtension "tmp") path] := by
  unfold saveSteps preparation
  cases path.parent? with
  | none => rfl
  | some directory => rfl

section Saving

variable {files : FileSystem φ} {torn : FileStep → φ → φ → Prop}
  {content : φ → Path → Option Bytes} {path : Path}
  (hfiles : files.Orderly torn content path (path.withExtension "tmp"))
  (hpath : path.extension? ≠ some "tmp")
include hfiles

/-- Once the temporary file is prepared, it holds the entries. -/
theorem content_of_prepared {entries : ByteMap} {s s' : φ}
    (h : (performAll files (preparation path entries)).perform s = (.ok (), s')) :
    content s' (path.withExtension "tmp") = some entries.encode := by
  rcases of_performAll_append h with ⟨e, he, -⟩ | ⟨s₁, -, h⟩
  · cases he
  · obtain ⟨s₂, hcreate, h⟩ := of_performAll_ok h
    obtain ⟨s₃, happend, h⟩ := of_performAll_ok h
    obtain ⟨s₄, hsync, h⟩ := of_performAll_ok h
    cases h
    rw [hfiles.synced hsync, hfiles.appended happend, hfiles.created hcreate]
    rfl

include hpath

/-- Preparing the temporary file leaves the real one alone, however it goes. -/
theorem content_of_preparation {entries : ByteMap} {s s' : φ}
    (h : files.Interrupted torn (preparation path entries) s s') :
    content s' path = content s path := by
  have hapart := Path.withExtension_apart hpath
  have hbeside : ∀ step : FileStep, step.target? = some (path.withExtension "tmp") →
      ∀ s s', files.Leaves torn step s s' → content s' path = content s path :=
    fun step htarget s s' hleft => hfiles.beside htarget hapart hleft
  have hsteps : ∀ step ∈ preparation path entries, ∀ s s', files.Leaves torn step s s' →
      content s' path = content s path := by
    intro step hstep
    simp only [preparation, List.mem_append, List.mem_map, Option.mem_toList, List.mem_cons,
      List.not_mem_nil, or_false] at hstep
    rcases hstep with ⟨directory, hdirectory, rfl⟩ | rfl | rfl | rfl
    · intro s s' hleft
      exact hfiles.directories hdirectory hleft
    · exact hbeside _ rfl
    · exact hbeside _ rfl
    · exact hbeside _ rfl
  exact interrupted_keeps hsteps h

theorem content_of_performed {entries : ByteMap} {s s' : φ} {r : Except FileError Unit}
    (h : (performAll files (preparation path entries)).perform s = (r, s')) :
    content s' path = content s path :=
  content_of_preparation hfiles hpath (interrupted_of_performAll torn h)

/-- A save that is stopped leaves the old file or the new one. -/
theorem content_of_stopped {entries : ByteMap} {s s' : φ}
    (h : files.Interrupted torn (saveSteps path entries) s s') :
    content s' path = content s path ∨ content s' path = some entries.encode := by
  rw [saveSteps_eq] at h
  rcases of_interrupted_append h with h | ⟨s₁, hprepared, h⟩
  · exact .inl (content_of_preparation hfiles hpath h)
  · have hold : content s₁ path = content s path := content_of_performed hfiles hpath hprepared
    have hnew : content s₁ (path.withExtension "tmp") = some entries.encode :=
      content_of_prepared hfiles hprepared
    rw [← hold, ← hnew]
    rcases h with _ | ⟨_, h⟩ | ⟨hmove, hrest⟩
    · exact .inl rfl
    · rcases h with ⟨r, h⟩ | h
      · rcases r with e | _
        · exact .inl (hfiles.unmoved h)
        · exact .inr (hfiles.moved h)
      · exact hfiles.atomic h
    · cases hrest
      exact .inr (hfiles.moved hmove)

/-- A save that ends leaves the new file, and one that fails leaves the old
one. -/
theorem content_of_save {entries : ByteMap} {s s' : φ} {r : Except BackendError Unit}
    (h : (save files path entries).perform s = (r, s')) :
    (∃ e, r = .error e ∧ content s' path = content s path) ∨
      (r = .ok () ∧ content s' path = some entries.encode) := by
  rcases hsteps : (performAll files (saveSteps path entries)).perform s with ⟨r', s''⟩
  have hsteps' := hsteps
  rw [saveSteps_eq] at hsteps'
  rcases of_performAll_append hsteps' with ⟨e, rfl, hprepared⟩ | ⟨s₁, hprepared, hlast⟩
  · rw [save, perform_mapError_error hsteps] at h
    cases h
    exact .inl ⟨_, rfl, content_of_performed hfiles hpath hprepared⟩
  · have hold : content s₁ path = content s path := content_of_performed hfiles hpath hprepared
    rw [performAll_cons] at hlast
    rcases hmove : files.perform (.rename (path.withExtension "tmp") path) s₁ with ⟨e | _, s₂⟩
    · rw [hmove] at hlast
      cases hlast
      rw [save, perform_mapError_error hsteps] at h
      cases h
      refine .inl ⟨_, rfl, ?_⟩
      rw [hfiles.unmoved hmove, hold]
    · rw [hmove] at hlast
      cases hlast
      rw [save, perform_mapError_ok hsteps] at h
      cases h
      refine .inr ⟨rfl, ?_⟩
      rw [hfiles.moved hmove, content_of_prepared hfiles hprepared]

end Saving

/-! ## Opening -/

/-- A file that is read as a map. A missing one is read as the empty map. -/
def Holds (file : Option Bytes) (m : ByteMap) : Prop :=
  match file with
  | none => m = .empty
  | some bytes => ByteMap.decode bytes = .ok m

theorem holds_encode {m : ByteMap} (h : m.Fits) : Holds (some m.encode) m := by
  have hread := ByteMap.decode_encode h []
  rw [List.append_nil] at hread
  exact hread

theorem fits_of_holds {file : Option Bytes} {m : ByteMap} (h : Holds file m) : m.Fits := by
  cases file with
  | none =>
    obtain rfl : m = .empty := h
    exact ⟨by decide, fun he => by cases he⟩
  | some bytes => exact ByteMap.fits_of_decode h

/-- Why a store cannot be opened if its file holds a map: the file cannot be
read. -/
def Unreadable (files : FileSystem φ) (path : Path) (e : BackendError) : Prop :=
  ∃ s cause, (files.read path s).1 = .error cause ∧ cause ≠ .notFound ∧
    e = .io (path.text ++ ": " ++ cause.message)

/-- A store is opened with the map that its file holds, and the file is left
alone. -/
theorem openAt_perform {files : FileSystem φ} {torn : FileStep → φ → φ → Prop}
    {content : φ → Path → Option Bytes} {path temporary : Path}
    (hfiles : files.Orderly torn content path temporary) {m : ByteMap} {s s' : φ}
    {r : Except BackendError FileStore} (hholds : Holds (content s path) m)
    (h : (openAt files path).perform s = (r, s')) :
    content s' path = content s path ∧
      (r = .ok ⟨path, m⟩ ∨ ∃ e, r = .error e ∧ Unreadable files path e) := by
  rw [openAt, perform_of] at h
  dsimp only at h
  have hlooked := hfiles.looked s
  rcases hread : files.read path s with ⟨e | bytes, s₁⟩
  · rw [hread] at h hlooked
    by_cases hmissing : e = .notFound
    · subst hmissing
      cases h
      have hnone : content s path = none := hfiles.missing (by rw [hread])
      rw [hnone] at hholds
      obtain rfl : m = .empty := hholds
      exact ⟨hlooked, .inl rfl⟩
    · have hr : r = .error (.io (path.text ++ ": " ++ e.message)) ∧ s' = s₁ := by
        cases e with
        | notFound => exact absurd rfl hmissing
        | alreadyExists | notDirectory | isDirectory | nameTooLong | denied | nulInName | notText
        | other message =>
          cases h
          exact ⟨rfl, rfl⟩
      obtain ⟨rfl, rfl⟩ := hr
      exact ⟨hlooked, .inr ⟨_, rfl, s, e, by rw [hread], hmissing, rfl⟩⟩
  · have hsome : content s path = some bytes := hfiles.found (by rw [hread])
    rw [hsome] at hholds
    have hdecode : ByteMap.decode bytes = .ok m := hholds
    rw [hread] at h hlooked
    dsimp only at h
    rw [hdecode] at h
    cases h
    exact ⟨hlooked, .inl rfl⟩

/-! ## Writes -/

/-- A write of a backend. -/
inductive Change where
  | put (key value : Bytes)
  | putAll (added : List (Bytes × Bytes))
deriving DecidableEq, Repr

namespace Change

/-- The write, made to a backend. -/
def on (b : Backend σ) : Change → Action σ BackendError Unit
  | put key value => b.put key value
  | putAll added => b.putAll added

/-- The entries that a write puts in. -/
def added : Change → List (Bytes × Bytes)
  | put key value => [(key, value)]
  | putAll added => added

/-- What a write makes of a map in memory. -/
def applied (c : Change) (m : ByteMap) : ByteMap :=
  ((c.on ByteMap.backend).perform m).2

theorem applied_eq (c : Change) (m : ByteMap) : c.applied m = m.insertAll c.added := by
  cases c with
  | put key value => rfl
  | putAll added => rfl

/-- A write saves what it makes of the entries, and then they are those, or as
they were if the save has failed. -/
theorem on_perform {files : FileSystem φ} {c : Change} {s s' : φ} {store store' : FileStore}
    {r : Except BackendError Unit}
    (h : (c.on (backend files)).perform (s, store) = (r, s', store')) :
    (save files store.path (c.applied store.entries)).perform s = (r, s') ∧
      ((∃ e, r = .error e ∧ store' = store) ∨
        (r = .ok () ∧ store' = { store with entries := c.applied store.entries })) := by
  have hreplace : (replace files (c.applied store.entries) store.entries).perform (s, store)
      = (r, s', store') := by
    cases c with
    | put key value =>
      rw [on, backend, perform_of] at h
      dsimp only at h
      rw [ByteMap.restore_insert] at h
      exact h
    | putAll added => exact h
  rcases replace_perform files (c.applied store.entries) store.entries s store with
    ⟨e, s₁, hsave, hdone⟩ | ⟨s₁, hsave, hdone⟩
  · rw [hreplace] at hdone
    cases hdone
    exact ⟨hsave, .inl ⟨e, rfl, rfl⟩⟩
  · rw [hreplace] at hdone
    cases hdone
    exact ⟨hsave, .inr ⟨rfl, rfl⟩⟩

end Change

/-! ## Runs -/

/-- Events that happen one after the other from a state. -/
inductive Run {α β : Type} (step : α → β → α → Prop) : α → List β → Prop where
  | nil (a : α) : Run step a []
  | cons {a a' : α} {b : β} {events : List β} (h : step a b a') (hrest : Run step a' events) :
      Run step a (b :: events)

/-- Something that happens to a store in a file, with what is answered: it is
opened, read or written, or the process is stopped while a write is saved. -/
inductive Event where
  | opened (r : Except BackendError Unit)
  | got (key : Bytes) (r : Except BackendError (Option Bytes))
  | asked (key : Bytes) (r : Except BackendError Bool)
  | changed (c : Change) (r : Except BackendError Unit)
  | stopped (c : Change)

/-- The entries of the write that an event is about. -/
def Event.added : Event → List (Bytes × Bytes)
  | .changed c _ => c.added
  | .stopped c => c.added
  | .opened _ | .got _ _ | .asked _ _ => []

/-- What happens to the files and to the store that is open, if there is one. A
store can be opened at any time, also over an open one, and a store that is
opened in vain changes nothing. -/
inductive Happens (files : FileSystem φ) (torn : FileStep → φ → φ → Prop) (path : Path) :
    φ × Option FileStore → Event → φ × Option FileStore → Prop where
  | opened {s s' : φ} {x : Option FileStore} {store : FileStore}
      (h : (openAt files path).perform s = (.ok store, s')) :
      Happens files torn path (s, x) (.opened (.ok ())) (s', some store)
  | unopened {s s' : φ} {x : Option FileStore} {e : BackendError}
      (h : (openAt files path).perform s = (.error e, s')) :
      Happens files torn path (s, x) (.opened (.error e)) (s', x)
  | got {s s' : φ} {store store' : FileStore} {key : Bytes}
      {r : Except BackendError (Option Bytes)}
      (h : ((backend files).get key).perform (s, store) = (r, s', store')) :
      Happens files torn path (s, some store) (.got key r) (s', some store')
  | asked {s s' : φ} {store store' : FileStore} {key : Bytes} {r : Except BackendError Bool}
      (h : ((backend files).has key).perform (s, store) = (r, s', store')) :
      Happens files torn path (s, some store) (.asked key r) (s', some store')
  | changed {s s' : φ} {store store' : FileStore} {c : Change} {r : Except BackendError Unit}
      (h : (c.on (backend files)).perform (s, store) = (r, s', store')) :
      Happens files torn path (s, some store) (.changed c r) (s', some store')
  | stopped {s s' : φ} {store : FileStore} {c : Change}
      (h : files.Interrupted torn (saveSteps store.path (c.applied store.entries)) s s') :
      Happens files torn path (s, some store) (.stopped c) (s', none)

theorem of_unopened {files : FileSystem φ} {torn : FileStep → φ → φ → Prop} {path : Path} {s s' : φ}
    {x x' : Option FileStore} {e : BackendError}
    (h : Happens files torn path (s, x) (.opened (.error e)) (s', x')) :
    (openAt files path).perform s = (.error e, s') := by
  cases h with
  | unopened h => exact h

/-- What a store in memory answers and becomes, that only the successful writes
are made to. A write during which the process is stopped is made or not made. -/
inductive Remembers (unreadable : BackendError → Prop) : ByteMap → Event → ByteMap → Prop where
  | opened (m : ByteMap) : Remembers unreadable m (.opened (.ok ())) m
  | unopened (m : ByteMap) {e : BackendError} (h : unreadable e) :
      Remembers unreadable m (.opened (.error e)) m
  | got (m : ByteMap) (key : Bytes) :
      Remembers unreadable m (.got key ((ByteMap.backend.get key).perform m).1) m
  | asked (m : ByteMap) (key : Bytes) :
      Remembers unreadable m (.asked key ((ByteMap.backend.has key).perform m).1) m
  | changed (m : ByteMap) (c : Change) :
      Remembers unreadable m (.changed c (.ok ())) (c.applied m)
  | failed (m : ByteMap) (c : Change) (e : BackendError) :
      Remembers unreadable m (.changed c (.error e)) m
  | undone (m : ByteMap) (c : Change) : Remembers unreadable m (.stopped c) m
  | done (m : ByteMap) (c : Change) : Remembers unreadable m (.stopped c) (c.applied m)

theorem of_remembers {unreadable : BackendError → Prop} {m m' : ByteMap} {e : Event}
    (h : Remembers unreadable m e m') : m' = m ∨ m' = m.insertAll e.added := by
  cases h with
  | changed c => exact .inr (c.applied_eq m)
  | done c => exact .inr (c.applied_eq m)
  | opened | unopened | got | asked | failed | undone => exact .inl rfl

theorem answer_of_remembers {unreadable : BackendError → Prop} {m m' : ByteMap} {key : Bytes}
    {r : Except BackendError (Option Bytes)} (h : Remembers unreadable m (.got key r) m') :
    r = .ok (m.get? key) := by
  cases h
  rfl

/-- A store that can always be opened is never found unreadable. -/
theorem Remembers.always {unreadable : BackendError → Prop} {m m' : ByteMap} {e : Event}
    (h : Remembers unreadable m e m') (hopens : ∀ error, e ≠ .opened (.error error)) :
    Remembers (fun _ => False) m e m' := by
  cases h with
  | unopened => exact absurd rfl (hopens _)
  | opened => exact .opened m
  | got => exact .got m _
  | asked => exact .asked m _
  | changed => exact .changed m _
  | failed => exact .failed m _ _
  | undone => exact .undone m _
  | done => exact .done m _

/-- A map, and events whose entries there is room for. -/
structure Room (m : ByteMap) (events : List Event) : Prop where
  fits : m.Fits
  added : ∀ entry ∈ events.flatMap Event.added, ByteMap.FitsEntry entry
  size : m.size + (events.flatMap Event.added).length < UInt64.size

section Room

variable {m : ByteMap} {e : Event} {events : List Event}

theorem Room.insertAll (h : Room m (e :: events)) : (m.insertAll e.added).Fits := by
  obtain ⟨hfits, hadded, hsize⟩ := h
  rw [List.flatMap_cons, List.length_append] at hsize
  rw [List.flatMap_cons] at hadded
  exact hfits.insertAll (fun entry hentry => hadded entry (List.mem_append_left _ hentry)) (by omega)

/-- There is room for the other events after one of them. -/
theorem Room.tail {unreadable : BackendError → Prop} {m' : ByteMap} (h : Room m (e :: events))
    (hevent : Remembers unreadable m e m') : Room m' events := by
  have hfits' := h.insertAll
  obtain ⟨hfits, hadded, hsize⟩ := h
  rw [List.flatMap_cons, List.length_append] at hsize
  rw [List.flatMap_cons] at hadded
  have hadded' : ∀ entry ∈ events.flatMap Event.added, ByteMap.FitsEntry entry :=
    fun entry hentry => hadded entry (List.mem_append_right _ hentry)
  rcases of_remembers hevent with rfl | rfl
  · exact ⟨hfits, hadded', by omega⟩
  · have hgrown := m.size_insertAll_le e.added
    exact ⟨hfits', hadded', by omega⟩

end Room

/-- The file at a path holds a map, and the store that is open holds it too. -/
structure InStep (content : φ → Path → Option Bytes) (path : Path) (u : φ × Option FileStore)
    (m : ByteMap) : Prop where
  file : Holds (content u.1 path) m
  store {store : FileStore} : u.2 = some store → store = ⟨path, m⟩

section Runs

variable {files : FileSystem φ} {torn : FileStep → φ → φ → Prop}
  {content : φ → Path → Option Bytes} {path : Path}
  (hfiles : files.Orderly torn content path (path.withExtension "tmp"))
  (hpath : path.extension? ≠ some "tmp")
include hfiles hpath

/-- File and memory stay in step. -/
theorem inStep_of_happens {u u' : φ × Option FileStore} {e : Event} {m : ByteMap}
    (hstep : InStep content path u m) (hfits : (m.insertAll e.added).Fits)
    (h : Happens files torn path u e u') :
    ∃ m', Remembers (Unreadable files path) m e m' ∧ InStep content path u' m' := by
  obtain ⟨hfile, hstore⟩ := hstep
  have hkept : ∀ {s' : φ}, content s' path = content u.1 path → Holds (content s' path) m := by
    intro s' hsame
    rw [hsame]
    exact hfile
  have hwritten : ∀ {s' : φ} {c : Change}, (m.insertAll c.added).Fits →
      content s' path = some (c.applied m).encode → Holds (content s' path) (c.applied m) := by
    intro s' c hfits hnew
    rw [hnew, Change.applied_eq]
    exact holds_encode hfits
  have honly : ∀ {m' : ByteMap} {store : FileStore}, some ⟨path, m'⟩ = some store →
      store = ⟨path, m'⟩ := fun h => (Option.some.inj h).symm
  cases h with
  | opened h =>
    obtain ⟨hcontent, hr | ⟨e, hr, -⟩⟩ := openAt_perform hfiles hfile h
    · cases hr
      exact ⟨m, .opened m, hkept hcontent, honly⟩
    · cases hr
  | unopened h =>
    obtain ⟨hcontent, hr | ⟨e, hr, hunreadable⟩⟩ := openAt_perform hfiles hfile h
    · cases hr
    · cases hr
      exact ⟨m, .unopened m hunreadable, hkept hcontent, hstore⟩
  | got h =>
    obtain rfl := hstore rfl
    cases h
    exact ⟨m, .got m _, hfile, hstore⟩
  | asked h =>
    obtain rfl := hstore rfl
    cases h
    exact ⟨m, .asked m _, hfile, hstore⟩
  | @changed s s' store store' c r h =>
    obtain rfl := hstore rfl
    obtain ⟨hsave, hstore'⟩ := Change.on_perform h
    have hcontent := content_of_save hfiles hpath hsave
    rcases r with e | _
    · obtain ⟨-, -, rfl⟩ | ⟨⟨⟩, -⟩ := hstore'
      obtain ⟨-, -, hold⟩ | ⟨⟨⟩, -⟩ := hcontent
      exact ⟨m, .failed m c e, hkept hold, honly⟩
    · obtain ⟨_, ⟨⟩, -⟩ | ⟨-, rfl⟩ := hstore'
      obtain ⟨_, ⟨⟩, -⟩ | ⟨-, hnew⟩ := hcontent
      exact ⟨c.applied m, .changed m c, hwritten hfits hnew, honly⟩
  | @stopped s s' store c h =>
    obtain rfl := hstore rfl
    have hnone : ∀ {m' : ByteMap} {store : FileStore}, none = some store → store = ⟨path, m'⟩ :=
      fun h => by cases h
    rcases content_of_stopped hfiles hpath h with hold | hnew
    · exact ⟨m, .undone m c, hkept hold, hnone⟩
    · exact ⟨c.applied m, .done m c, hwritten hfits hnew, hnone⟩

/-- They stay in step in a whole run. -/
theorem remembers_of_run {events : List Event} {u : φ × Option FileStore} {m : ByteMap}
    (hstep : InStep content path u m) (hroom : Room m events)
    (h : Run (Happens files torn path) u events) :
    Run (Remembers (Unreadable files path)) m events := by
  induction h generalizing m with
  | nil u => exact .nil m
  | cons hfirst _ ih =>
    obtain ⟨m', hm', hstep'⟩ := inStep_of_happens hfiles hpath hstep hroom.insertAll hfirst
    exact .cons hm' (ih hstep' (hroom.tail hm'))

/-- A store in a file answers as a map in memory, however it is opened, written
and stopped: a write that fails is as if it had not been asked for, one that
succeeds is there for good, and one that is stopped is there as a whole or not
at all. The lengths are those of what fits into a memory. -/
theorem answers_as_in_memory {events : List Event} {s : φ} {m : ByteMap}
    (hholds : Holds (content s path) m) (hfits : m.Fits)
    (hadded : ∀ e ∈ events.flatMap Event.added, ByteMap.FitsEntry e)
    (hroom : m.size + (events.flatMap Event.added).length < UInt64.size)
    (h : Run (Happens files torn path) (s, none) events) :
    Run (Remembers (Unreadable files path)) m events := by
  have hstep : InStep content path (s, none) m := ⟨hholds, fun h => by cases h⟩
  exact remembers_of_run hfiles hpath hstep ⟨hfits, hadded, hroom⟩ h

end Runs

/-! ### A run in a tree -/

/-- A file of the working directory. -/
def blocksFile : Path := .ofSteps false ["blocks.db"]

theorem blocksFile_orderly :
    FileTree.system.Orderly FileTree.Torn FileTree.held blocksFile
      (blocksFile.withExtension "tmp") := by
  have hname : FileTree.IsName "blocks.db" := ⟨by decide, by decide, by decide, by decide⟩
  have htemporary : FileTree.IsName "blocks.tmp" := ⟨by decide, by decide, by decide, by decide⟩
  exact FileTree.orderly_here hname htemporary (by decide)

/-- A store that is written, and stopped while the temporary file is. -/
def stoppedRun : List Event :=
  [.opened (.ok ()), .changed (.put [1] [2]) (.ok ()), .stopped (.putAll [([1], [3]), ([4], [5])]),
    .opened (.ok ()), .got [1] (.ok (some [2])), .asked [4] (.ok false)]

theorem stoppedRun_happens :
    Run (Happens FileTree.system FileTree.Torn blocksFile) (FileTree.empty, none) stoppedRun := by
  refine .cons (.opened rfl) (.cons (.changed rfl) (.cons (.stopped (.after rfl (.after rfl
    (.within _ (.broken ⟨3, rfl⟩))))) (.cons (.opened rfl) (.cons (.got rfl) (.cons (.asked rfl)
    (.nil _))))))

/-- What was written before the stop is there after it, and nothing else is. -/
theorem stoppedRun_remembered :
    Run (Happens FileTree.system FileTree.Torn blocksFile) (FileTree.empty, none) stoppedRun ∧
      Run (Remembers (Unreadable FileTree.system blocksFile)) .empty stoppedRun := by
  have hpath : blocksFile.extension? ≠ some "tmp" := by decide
  have hadded : ∀ e ∈ stoppedRun.flatMap Event.added, ByteMap.FitsEntry e := by
    intro e he
    simp only [stoppedRun, List.flatMap_cons, List.flatMap_nil, Event.added, Change.added,
      List.nil_append, List.append_nil, List.cons_append, List.mem_cons, List.not_mem_nil,
      or_false] at he
    rcases he with rfl | rfl | rfl <;> exact ⟨by decide, by decide⟩
  have hempty : Holds (FileTree.empty.held blocksFile) .empty := rfl
  have hfits : ByteMap.empty.Fits := ⟨by decide, fun h => by cases h⟩
  exact ⟨stoppedRun_happens, answers_as_in_memory blocksFile_orderly hpath hempty hfits hadded
    (by decide) stoppedRun_happens⟩

end FileStore

end RelayHub
