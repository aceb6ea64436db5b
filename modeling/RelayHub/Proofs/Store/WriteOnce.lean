/-
The record of a transaction is written once.

A store is called and opened again, and its backend fails now and then. Until a
transaction is recorded nothing is known of it, also if recording it has failed.
Once it is recorded, its record is found whenever it is asked for, and nothing
that is recorded later and no block that is stored takes its place.
-/
import RelayHub.Proofs.Store.Apart
import RelayHub.Proofs.Store.Reopened

set_option autoImplicit false

namespace RelayHub

open RelayHub.Action BlockStore

variable {σ : Type}

/-! ## Events -/

/-- Something that happens to a block store: a call is answered, or the store is
opened again over its backend. -/
inductive StoreEvent where
  | answered (a : Answered)
  | reopened (r : Except BackendError Unit)

namespace StoreEvent

/-- An answer that is right about a transaction of which there is a record, or
none, and after which that is still so. Whatever is not about the transaction is
right, and so are failures of the backend. -/
def Agrees (b : Backend σ) (t : String) (x : Option DedupRecord) : StoreEvent → Prop
  | answered ⟨.hasSeen u, r⟩ => u = t → Answers b r x.isSome
  | answered ⟨.transaction u, r⟩ => u = t → Answers b r x
  | answered ⟨.recordSeen record, r⟩ =>
    record.txHash = t → Answers b r false ∧ (x = none → r ≠ .ok false)
  | _ => True

/-- Records whose texts have lengths that are words, as all in memory have. -/
def Fits : StoreEvent → Prop
  | answered ⟨.recordSeen record, _⟩ => record.Fits
  | _ => True

end StoreEvent

/-- What happens to the block store of a chain over a backend. -/
inductive BlockStore.Happens (own : ChainId) (b : Backend σ)
    (reopens : σ → Except BackendError Unit → σ → Prop) : σ → StoreEvent → σ → Prop where
  | answered {s s' : σ} {c : StoreCall} {r : Except StoreError c.Value}
      (h : ((ofBackend own b).call c).perform s = (r, s')) :
      Happens own b reopens s (.answered ⟨c, r⟩) s'
  | reopened {s s' : σ} {r : Except BackendError Unit} (h : reopens s r s') :
      Happens own b reopens s (.reopened r) s'

/-! ## Calls -/

/-- What a map holds of a transaction: a record that fits, or nothing. -/
structure HoldsRecord (own : ChainId) (m : ByteMap) (t : String) (x : Option DedupRecord) :
    Prop where
  bytes : recordAt own m t = x.map DedupRecord.encode
  fits : ∀ record ∈ x, record.Fits

section Calls

variable {own : ChainId} {m m' : ByteMap} {t : String} {c : StoreCall}
  {r : Except StoreError c.Value}

/-- A call that does not record a transaction leaves its record as it is. -/
theorem recordAt_of_call (hc : ∀ record, c = .recordSeen record → record.txHash ≠ t)
    (h : ((inMemory own).call c).perform m = (r, m')) : recordAt own m' t = recordAt own m t := by
  cases hrecords : c.records with
  | false => exact ByteMap.under_eq_iff.1 (call_keeps_records hrecords h) _ ⟨t, rfl⟩
  | true =>
    cases c with
    | recordSeen record =>
      change ((inMemory own).recordSeen record).perform m = (r, m') at h
      rw [recordSeen_perform] at h
      split at h
      · cases h
        rfl
      · cases h
        rw [recordAt_withRecord, if_neg (hc record rfl).symm]
    | _ => cases hrecords

variable {b : Backend σ} {x : Option DedupRecord}

/-- A call that fails by the backend is right about everything. -/
theorem StoreEvent.agrees_of_error {e : StoreError} (he : StoreError.CausedBy b.FailsWith e) :
    StoreEvent.Agrees b t x (.answered ⟨c, .error e⟩) := by
  cases c with
  | hasSeen u => exact fun _ => .inr ⟨e, rfl, he⟩
  | transaction u => exact fun _ => .inr ⟨e, rfl, he⟩
  | recordSeen record => exact fun _ => ⟨.inr ⟨e, rfl, he⟩, fun _ h => by cases h⟩
  | storeBlock | latest | byNumber | byHash => trivial

namespace HoldsRecord

/-- What is asked about a transaction is answered by its record. -/
theorem agrees (hx : HoldsRecord own m t x)
    (hc : ∀ record, c = .recordSeen record → record.txHash ≠ t)
    (h : ((inMemory own).call c).perform m = (r, m')) :
    StoreEvent.Agrees b t x (.answered ⟨c, r⟩) := by
  obtain ⟨hbytes, hfits⟩ := hx
  cases c with
  | hasSeen u =>
    rintro rfl
    change ((inMemory own).hasSeen u).perform m = (r, m') at h
    rw [hasSeen_perform, seen_eq, hbytes, Option.isSome_map] at h
    cases h
    exact .inl rfl
  | transaction u =>
    rintro rfl
    change ((inMemory own).transaction u).perform m = (r, m') at h
    cases x with
    | none =>
      change (readTransaction ByteMap.backend own u).perform m = (r, m') at h
      rw [readTransaction, Sound.read_absent hbytes] at h
      cases h
      exact .inl rfl
    | some record =>
      rw [transaction_perform (hfits record rfl) hbytes] at h
      cases h
      exact .inl rfl
  | recordSeen record => exact fun hsame => absurd hsame (hc record rfl)
  | storeBlock | latest | byNumber | byHash => trivial

/-- A call is right about a transaction and leaves its record as it is, or it is the
one that records it. -/
theorem call (hx : HoldsRecord own m t x) (hc : StoreEvent.Fits (.answered ⟨c, r⟩))
    (h : ((inMemory own).call c).perform m = (r, m')) :
    (StoreEvent.Agrees b t x (.answered ⟨c, r⟩) ∧ HoldsRecord own m' t x) ∨
      x = none ∧ ∃ record : DedupRecord, record.txHash = t ∧
        (⟨c, r⟩ : Answered) = ⟨.recordSeen record, .ok true⟩ ∧
        HoldsRecord own m' t (some record) := by
  by_cases hother : ∀ record, c = .recordSeen record → record.txHash ≠ t
  · exact .inl ⟨hx.agrees hother h, (recordAt_of_call hother h).trans hx.bytes, hx.fits⟩
  · push Not at hother
    obtain ⟨record, rfl, hsame⟩ := hother
    change ((inMemory own).recordSeen record).perform m = (r, m') at h
    rw [recordSeen_perform, seen_eq, hsame, hx.bytes, Option.isSome_map] at h
    cases x with
    | some first =>
      cases h
      exact .inl ⟨fun _ => ⟨.inl rfl, fun hnone => by cases hnone⟩, hx⟩
    | none =>
      cases h
      refine .inr ⟨rfl, record, hsame, rfl, ?_, ?_⟩
      · rw [recordAt_withRecord, if_pos hsame.symm]
        rfl
      · rintro _ ⟨⟩
        exact hc

end HoldsRecord

end Calls

/-! ## Runs -/

/-- How the record of a transaction comes about: never, or with the one call that
records it. -/
inductive WrittenOnce (b : Backend σ) (t : String) (events : List StoreEvent) : Prop where
  | never (h : ∀ e ∈ events, e.Agrees b t none)
  | once (before after : List StoreEvent) (record : DedupRecord) (hrecord : record.txHash = t)
      (hevents : events = before ++ .answered ⟨.recordSeen record, .ok true⟩ :: after)
      (hbefore : ∀ e ∈ before, e.Agrees b t none)
      (hafter : ∀ e ∈ after, e.Agrees b t (some record))

/-- What has happened before, and left no record, is of no account. -/
theorem WrittenOnce.cons {b : Backend σ} {t : String} {e : StoreEvent} {events : List StoreEvent}
    (he : e.Agrees b t none) (h : WrittenOnce b t events) : WrittenOnce b t (e :: events) := by
  cases h with
  | never h => exact .never (List.forall_mem_cons.2 ⟨he, h⟩)
  | once before after record hrecord hevents hbefore hafter =>
    refine .once (e :: before) after record hrecord ?_ (List.forall_mem_cons.2 ⟨he, hbefore⟩) hafter
    rw [hevents, List.cons_append]

namespace BlockStore

section Runs

variable {b : Backend σ} {reopens : σ → Except BackendError Unit → σ → Prop}
  {entries : σ → ByteMap} (hb : b.Lasting reopens entries) {own : ChainId} {t : String} {s s' : σ}
  {x : Option DedupRecord} {e : StoreEvent} {events : List StoreEvent}
include hb

/-- Whatever happens is right about a transaction and leaves its record as it is, or
it is the call that records it. -/
theorem of_happens (hx : HoldsRecord own (entries s) t x) (he : e.Fits)
    (h : Happens own b reopens s e s') :
    (e.Agrees b t x ∧ HoldsRecord own (entries s') t x) ∨
      x = none ∧ ∃ record : DedupRecord, record.txHash = t ∧
        e = .answered ⟨.recordSeen record, .ok true⟩ ∧
        HoldsRecord own (entries s') t (some record) := by
  cases h with
  | answered h =>
    rcases call_tracks hb.faithful own _ h with ⟨error, herror, rfl, hkept⟩ | hdone
    · rw [hkept]
      exact .inl ⟨StoreEvent.agrees_of_error herror, hx⟩
    · rcases hx.call he hdone with hsame | ⟨hnone, record, hrecord, hthis, hx'⟩
      · exact .inl hsame
      · exact .inr ⟨hnone, record, hrecord, congrArg StoreEvent.answered hthis, hx'⟩
  | reopened h =>
    rw [hb.reopened h]
    exact .inl ⟨trivial, hx⟩

/-- A record stays in a whole run. -/
theorem agrees_of_run {record : DedupRecord} (hx : HoldsRecord own (entries s) t (some record))
    (hfits : ∀ e ∈ events, e.Fits) (h : FileStore.Run (Happens own b reopens) s events) :
    ∀ e ∈ events, e.Agrees b t (some record) := by
  induction h with
  | nil => exact List.forall_mem_nil _
  | cons hfirst _ ih =>
    obtain ⟨hfit, hrest⟩ := List.forall_mem_cons.1 hfits
    rcases of_happens hb hx hfit hfirst with ⟨hagrees, hx'⟩ | ⟨hnone, -⟩
    · exact List.forall_mem_cons.2 ⟨hagrees, ih hx' hrest⟩
    · cases hnone

/-- The record of a transaction is written once: however a store is called and opened
again, and whenever its backend fails, a transaction of which it has no record is
recorded at most once. Until then all that is answered is that there is no record, and
from then on it is that record. -/
theorem records_written_once (hs : recordAt own (entries s) t = none)
    (hfits : ∀ e ∈ events, e.Fits) (h : FileStore.Run (Happens own b reopens) s events) :
    WrittenOnce b t events := by
  induction h with
  | nil => exact .never (List.forall_mem_nil _)
  | cons hfirst hrun ih =>
    obtain ⟨hfit, hrest⟩ := List.forall_mem_cons.1 hfits
    have hx : HoldsRecord own _ t none := ⟨hs, fun _ hnone => by cases hnone⟩
    rcases of_happens hb hx hfit hfirst with ⟨hagrees, hx'⟩ | ⟨-, record, hrecord, rfl, hx'⟩
    · exact (ih hx'.bytes hrest).cons hagrees
    · -- This is the call that records it, so what follows finds its record.
      refine .once [] _ record hrecord rfl (List.forall_mem_nil _) ?_
      exact agrees_of_run hb hx' hrest hrun

end Runs

/-! ### A record in a file -/

/-- A backend that fails now and then lasts if it does so without failing. -/
theorem unsteady_lasting {b : Backend σ} {reopens : σ → Except BackendError Unit → σ → Prop}
    {entries : σ → ByteMap} (hb : b.Lasting reopens entries) (e : BackendError) :
    (b.unsteady e).Lasting (fun s r s' => reopens s.1 r s'.1) fun s => entries s.1 where
  faithful := Backend.unsteady_faithful hb.faithful e
  reopened h := hb.reopened h

/-- Two records of one transaction. -/
def rivalRecords : DedupRecord × DedupRecord :=
  (⟨"t", 7, "h7", [1, 2]⟩, ⟨"t", 8, "h8", []⟩)

/-- The state of a store in a file, and which of its next operations fail. -/
abbrev FileState : Type :=
  { u // FileStore.Saved FileTree.held FileStore.blocksFile u } × List Bool

/-- The backend of a file that fails now and then. -/
def fileBackend : Backend FileState :=
  ((FileStore.backend FileTree.system).restrict
    (FileStore.saved_preserved FileStore.blocksFile_orderly (by decide))).unsteady (.io "busy")

/-- The store is opened again from its file. -/
def fileReopens (s : FileState) (r : Except BackendError Unit) (s' : FileState) : Prop :=
  FileStore.Reopens FileTree.system s.1.1 r s'.1.1

/-- A store whose file is not there yet. The second operation fails. -/
def unsavedState : FileState :=
  (⟨(FileTree.empty, ⟨FileStore.blocksFile, .empty⟩), rfl, fun _ => rfl⟩, [false, true])

/-- A store that holds some entries, as its file does. -/
def savedState (m : ByteMap) : FileState :=
  (⟨(⟨[(["blocks.db"], .file m.encode)]⟩, ⟨FileStore.blocksFile, m⟩), rfl,
    FileStore.holds_encode⟩, [])

/-- The first record, alone. -/
def recordedMap : ByteMap :=
  withRecord ⟨"A"⟩ .empty rivalRecords.1

/-- The first record, with a block that has the hash of the transaction. -/
def storedMap : ByteMap :=
  (((inMemory ⟨"A"⟩).storeBlock (plainBlock 8 "" "t")).perform recordedMap).2

/-- A transaction is recorded in vain, recorded, and recorded again after a block was
stored and the store was opened again. -/
def rivalEvents : List StoreEvent :=
  [.answered ⟨.recordSeen rivalRecords.2, .error (.database (.io "busy"))⟩,
    .answered ⟨.hasSeen "t", .ok false⟩,
    .answered ⟨.recordSeen rivalRecords.1, .ok true⟩,
    .answered ⟨.storeBlock (plainBlock 8 "" "t"), .ok ()⟩,
    .reopened (.ok ()),
    .answered ⟨.recordSeen rivalRecords.2, .ok false⟩,
    .answered ⟨.transaction "t", .ok (some rivalRecords.1)⟩]

theorem rivalEvents_happen :
    FileStore.Run (Happens ⟨"A"⟩ fileBackend fileReopens) unsavedState rivalEvents := by
  have hbusy : ((ofBackend ⟨"A"⟩ fileBackend).recordSeen rivalRecords.2).perform unsavedState
      = (.error (.database (.io "busy")), unsavedState.1, []) := by decide +kernel
  have hrecord : ((ofBackend ⟨"A"⟩ fileBackend).recordSeen rivalRecords.1).perform
      (unsavedState.1, []) = (.ok true, savedState recordedMap) := by decide +kernel
  have hstore : ((ofBackend ⟨"A"⟩ fileBackend).storeBlock (plainBlock 8 "" "t")).perform
      (savedState recordedMap) = (.ok (), savedState storedMap) := by decide +kernel
  have hopen : (FileStore.openAt FileTree.system FileStore.blocksFile).perform
      ⟨[(["blocks.db"], .file storedMap.encode)]⟩
      = (.ok ⟨FileStore.blocksFile, storedMap⟩, ⟨[(["blocks.db"], .file storedMap.encode)]⟩) := by
    decide +kernel
  have hdecode : ByteMap.decode storedMap.encode = .ok storedMap := by decide +kernel
  have hreopen : fileReopens (savedState storedMap) (.ok ()) (savedState storedMap) :=
    .opened (ByteMap.fits_of_decode hdecode) hopen
  have hagain : ((ofBackend ⟨"A"⟩ fileBackend).recordSeen rivalRecords.2).perform
      (savedState storedMap) = (.ok false, savedState storedMap) := by decide +kernel
  have hread : ((ofBackend ⟨"A"⟩ fileBackend).transaction "t").perform (savedState storedMap)
      = (.ok (some rivalRecords.1), savedState storedMap) := by decide +kernel
  exact .cons (.answered hbusy) (.cons (.answered rfl) (.cons (.answered hrecord)
    (.cons (.answered hstore) (.cons (.reopened hreopen) (.cons (.answered hagain)
    (.cons (.answered hread) (.nil _)))))))

/-- The attempt that failed has left nothing, and the record that was written is found
after the store was opened again. -/
theorem rivalEvents_recorded_once :
    recordAt ⟨"A"⟩ unsavedState.1.1.2.entries "t" = none ∧ (∀ e ∈ rivalEvents, e.Fits) ∧
      FileStore.Run (Happens ⟨"A"⟩ fileBackend fileReopens) unsavedState rivalEvents ∧
      WrittenOnce fileBackend "t" rivalEvents := by
  have hfirst : rivalRecords.1.Fits := ⟨by decide, by decide, by decide⟩
  have hsecond : rivalRecords.2.Fits := ⟨by decide, by decide, by decide⟩
  have hfits : ∀ e ∈ rivalEvents, e.Fits := by
    intro e he
    simp only [rivalEvents, List.mem_cons, List.not_mem_nil, or_false] at he
    rcases he with rfl | rfl | rfl | rfl | rfl | rfl | rfl
    · exact hsecond
    · trivial
    · exact hfirst
    · trivial
    · trivial
    · exact hsecond
    · trivial
  have hlasting : fileBackend.Lasting fileReopens fun s => s.1.1.2.entries :=
    unsteady_lasting (FileStore.backend_lasting FileStore.blocksFile_orderly (by decide)) (.io "busy")
  exact ⟨rfl, hfits, rivalEvents_happen, records_written_once hlasting rfl hfits rivalEvents_happen⟩

end BlockStore

end RelayHub
