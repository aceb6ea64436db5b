/-
Maps are what they answer, and are read back from their bytes.

The entries of a map stand in one order only, so two maps that answer alike are
one map. That settles what is left of a map after a change and its undoing, and
it settles reading: the entries that come out of the bytes of a map, put one
after the other into an empty one, make up a map that answers as the first.
-/
import RelayHub.Proofs.Store.Layout
import RelayHub.Store.File

set_option autoImplicit false

namespace RelayHub

/-! ## Order -/

namespace Bytes

theorem before_irrefl (x : Bytes) : before x x = false := by
  induction x with
  | nil => rfl
  | cons a as ih => simp [before, ih]

theorem ne_of_before {x y : Bytes} (h : before x y = true) : x ≠ y := by
  rintro rfl
  rw [before_irrefl] at h
  cases h

end Bytes

namespace Entries

variable {key value : Bytes} {rest : List (Bytes × Bytes)}

/-- What stands before all keys is none of them. -/
theorem lookup_eq_none_of_before (h : ∀ e ∈ rest, Bytes.before key e.1 = true) :
    rest.lookup key = none := by
  rw [List.lookup_eq_none_iff]
  intro e he
  exact bne_iff_ne.2 (Bytes.ne_of_before (h e he))

/-- Ordered entries are determined by what is found in them. -/
theorem eq_of_lookup_eq {entries entries' : List (Bytes × Bytes)} (h : Ordered entries)
    (h' : Ordered entries') (heq : ∀ key, entries.lookup key = entries'.lookup key) :
    entries = entries' := by
  -- Both least keys are found on both sides, so neither stands before the other.
  induction entries generalizing entries' with
  | nil =>
    cases entries' with
    | nil => rfl
    | cons e' rest' =>
      have hfound := heq e'.1
      rw [ByteMap.lookup_cons_if e'.1 e'.1 e'.2 rest', if_pos rfl] at hfound
      cases hfound
  | cons e rest ih =>
    obtain ⟨key, value⟩ := e
    obtain ⟨hleast, hrest⟩ := List.pairwise_cons.1 h
    cases entries' with
    | nil =>
      have hfound := heq key
      rw [ByteMap.lookup_cons_if, if_pos rfl] at hfound
      cases hfound
    | cons e' rest' =>
      obtain ⟨key', value'⟩ := e'
      obtain ⟨hleast', hrest'⟩ := List.pairwise_cons.1 h'
      have hkey : key = key' := by
        refine Decidable.byContradiction fun hne => ?_
        by_cases hbefore : Bytes.before key key' = true
        · have hnone : List.lookup key ((key', value') :: rest') = none :=
            lookup_eq_none_of_before (List.forall_mem_cons.2
              ⟨hbefore, fun e he => Bytes.before_trans hbefore (hleast' e he)⟩)
          rw [← heq key, ByteMap.lookup_cons_if, if_pos rfl] at hnone
          cases hnone
        · have hafter : Bytes.before key' key = true :=
            Bytes.before_of_not hne (by simpa using hbefore)
          have hnone : List.lookup key' ((key, value) :: rest) = none :=
            lookup_eq_none_of_before (List.forall_mem_cons.2
              ⟨hafter, fun e he => Bytes.before_trans hafter (hleast e he)⟩)
          rw [heq key', ByteMap.lookup_cons_if, if_pos rfl] at hnone
          cases hnone
      subst hkey
      have hvalue : value = value' := by
        simpa [ByteMap.lookup_cons_if] using heq key
      have htail : ∀ other, rest.lookup other = rest'.lookup other := by
        intro other
        by_cases hother : other = key
        · rw [hother, lookup_eq_none_of_before hleast, lookup_eq_none_of_before hleast']
        · simpa [ByteMap.lookup_cons_if, hother] using heq other
      rw [hvalue, ih hrest hrest' htail]

/-- Entries found while going through a list are those found in it, if its keys
are all different. -/
theorem foldl_eq_lookup {entries : List (Bytes × Bytes)} (h : Ordered entries) (key : Bytes)
    (found : Option Bytes) :
    entries.foldl (fun found e => if key = e.1 then some e.2 else found) found
      = (entries.lookup key).or found := by
  induction entries generalizing found with
  | nil => rfl
  | cons e rest ih =>
    obtain ⟨hleast, hrest⟩ := List.pairwise_cons.1 h
    rw [List.foldl_cons, ih hrest, ByteMap.lookup_cons_if]
    by_cases hkey : key = e.1
    · subst hkey
      rw [if_pos rfl, if_pos rfl, lookup_eq_none_of_before hleast]
      rfl
    · rw [if_neg hkey, if_neg hkey]

end Entries

/-! ## What maps answer -/

namespace ByteMap

/-- Maps that answer alike are one map. -/
theorem eq_of_get?_eq {m m' : ByteMap} (h : ∀ key, m.get? key = m'.get? key) : m = m' := by
  obtain ⟨entries, hordered⟩ := m
  obtain ⟨entries', hordered'⟩ := m'
  obtain rfl := Entries.eq_of_lookup_eq hordered hordered' h
  rfl

theorem get?_insertAll (m : ByteMap) (added : List (Bytes × Bytes)) (key : Bytes) :
    (m.insertAll added).get? key =
      added.foldl (fun found e => if key = e.1 then some e.2 else found) (m.get? key) := by
  unfold insertAll
  induction added generalizing m with
  | nil => rfl
  | cons e added ih => rw [List.foldl_cons, List.foldl_cons, ih, get?_insert]

/-- What is true of the value of a key, and of the values put under it, stays
true. -/
theorem get?_insertAll_all {p : Bytes → Prop} {m : ByteMap} {added : List (Bytes × Bytes)}
    {key : Bytes} (hm : ∀ v ∈ m.get? key, p v) (hadded : ∀ e ∈ added, e.1 = key → p e.2) :
    ∀ v ∈ (m.insertAll added).get? key, p v := by
  rw [get?_insertAll]
  revert hm
  generalize m.get? key = found
  intro hfound
  induction added generalizing found with
  | nil => exact hfound
  | cons e added ih =>
    obtain ⟨he, hrest⟩ := List.forall_mem_cons.1 hadded
    rw [List.foldl_cons]
    refine ih hrest _ ?_
    by_cases hkey : key = e.1
    · rw [if_pos hkey]
      intro v hv
      obtain rfl := Option.some.inj hv
      exact he hkey.symm
    · rw [if_neg hkey]
      exact hfound

theorem get?_erase (m : ByteMap) (key other : Bytes) :
    (m.erase key).get? other = if other = key then none else m.get? other := by
  unfold get? erase
  dsimp only
  induction m.entries with
  | nil => simp
  | cons e rest ih =>
    by_cases he : e.1 = key
    · rw [List.filter_cons_of_neg (by simpa using he), ih, lookup_cons_if, he]
      split <;> rfl
    · rw [List.filter_cons_of_pos (by simpa using he), lookup_cons_if, lookup_cons_if, ih]
      by_cases hother : other = e.1
      · have hne : other ≠ key := fun h => he (hother ▸ h)
        simp [hother ▸ hne, hother]
      · simp [hother]

/-- A key given back what it had undoes what it was given. -/
theorem restore_insert (m : ByteMap) (key value : Bytes) :
    (m.insert key value).restore key (m.get? key) = m := by
  refine eq_of_get?_eq fun other => ?_
  cases hold : m.get? key with
  | none =>
    rw [restore, get?_erase, get?_insert]
    by_cases hother : other = key
    · rw [if_pos hother, hother, hold]
    · rw [if_neg hother, if_neg hother]
  | some old =>
    rw [restore, get?_insert, get?_insert]
    by_cases hother : other = key
    · rw [if_pos hother, hother, hold]
    · rw [if_neg hother, if_neg hother]

/-- The entries of a map, put into an empty one. -/
theorem insertAll_entries (m : ByteMap) : empty.insertAll m.entries = m := by
  refine eq_of_get?_eq fun key => ?_
  rw [get?_insertAll, Entries.foldl_eq_lookup m.ordered]
  exact Option.or_none

/-! ## Reading back -/

/-- A key and its value, whose lengths are words. -/
def FitsEntry (e : Bytes × Bytes) : Prop :=
  e.1.length < UInt64.size ∧ e.2.length < UInt64.size

/-- A map whose number of entries, and the lengths in them, are words. -/
structure Fits (m : ByteMap) : Prop where
  size : m.size < UInt64.size
  entry {e : Bytes × Bytes} : e ∈ m.entries → FitsEntry e

theorem length_entriesInsert_le (key value : Bytes) (entries : List (Bytes × Bytes)) :
    (Entries.insert key value entries).length ≤ entries.length + 1 := by
  induction entries with
  | nil => exact Nat.le_refl 1
  | cons e rest ih =>
    unfold Entries.insert
    split
    · exact Nat.le_refl _
    · split
      · exact Nat.le_succ _
      · exact Nat.succ_le_succ ih

/-- A map that entries are put into still fits, if there is room for all of
them. -/
theorem Fits.insertAll {m : ByteMap} (h : m.Fits) {added : List (Bytes × Bytes)}
    (hadded : ∀ e ∈ added, FitsEntry e) (hroom : m.size + added.length < UInt64.size) :
    (m.insertAll added).Fits := by
  induction added generalizing m with
  | nil => exact h
  | cons e added ih =>
    obtain ⟨he, hrest⟩ := List.forall_mem_cons.1 hadded
    have hsize : (m.insert e.1 e.2).size ≤ m.size + 1 := length_entriesInsert_le _ _ _
    rw [List.length_cons] at hroom
    have hone : (m.insert e.1 e.2).Fits := by
      refine ⟨by omega, fun {e'} he' => ?_⟩
      rcases Entries.mem_insert he' with rfl | he'
      · exact he
      · exact h.entry he'
    have hroom' : (m.insert e.1 e.2).size + added.length < UInt64.size := by omega
    exact ih hone hrest hroom'

theorem size_insertAll_le (m : ByteMap) (added : List (Bytes × Bytes)) :
    (m.insertAll added).size ≤ m.size + added.length := by
  induction added generalizing m with
  | nil => exact Nat.le_refl _
  | cons e added ih =>
    have hsize : (m.insert e.1 e.2).size ≤ m.size + 1 := length_entriesInsert_le _ _ _
    have hrest := ih (m.insert e.1 e.2)
    rw [List.length_cons]
    change ((m.insert e.1 e.2).insertAll added).size ≤ _
    omega

theorem takeEntries_flatMap {entries : List (Bytes × Bytes)} (h : ∀ e ∈ entries, FitsEntry e)
    (m : ByteMap) (rest : Bytes) :
    takeEntries entries.length m
        ((entries.flatMap fun e => Layout.block e.1 ++ Layout.block e.2) ++ rest)
      = .ok (m.insertAll entries) := by
  induction entries generalizing m with
  | nil => rfl
  | cons e entries ih =>
    obtain ⟨⟨hkey, hvalue⟩, hrest⟩ := List.forall_mem_cons.1 h
    simp only [List.length_cons, takeEntries, List.flatMap_cons, List.append_assoc]
    rw [Layout.takeBlock_block hkey]
    simp only [bind, Except.bind]
    rw [Layout.takeBlock_block hvalue]
    exact ih hrest _

/-- A map is read back from its bytes, whatever follows them. -/
theorem decode_encode {m : ByteMap} (h : m.Fits) (rest : Bytes) :
    decode (m.encode ++ rest) = .ok m := by
  rw [decode, encode, Layout.length, List.append_assoc, Layout.takeWord_word]
  simp only [bind, Except.bind]
  rw [Layout.toNat_length h.size, takeEntries_flatMap fun e he => h.entry he, insertAll_entries]

theorem length_of_takeBlock {bytes taken rest : Bytes}
    (h : Layout.takeBlock bytes = .ok (taken, rest)) : taken.length < UInt64.size := by
  rw [Layout.takeBlock] at h
  rcases hword : Layout.takeWord bytes with e | ⟨n, more⟩ <;> rw [hword] at h
  · cases h
  · simp only [bind, Except.bind] at h
    split at h
    · cases h
    · cases h
      have hlength : (more.take n.toNat).length ≤ n.toNat := List.length_take_le _ _
      exact Nat.lt_of_le_of_lt hlength n.toNat_lt_size

/-- Entries that are read have lengths that are words. -/
theorem fits_of_takeEntries {count : Nat} {m m' : ByteMap} {bytes : Bytes}
    (h : takeEntries count m bytes = .ok m') (hm : ∀ e ∈ m.entries, FitsEntry e) :
    (∀ e ∈ m'.entries, FitsEntry e) ∧ m'.size ≤ m.size + count := by
  induction count generalizing m bytes with
  | zero =>
    cases h
    exact ⟨hm, Nat.le_refl _⟩
  | succ count ih =>
    rw [takeEntries] at h
    rcases hkey : Layout.takeBlock bytes with e | ⟨key, rest⟩ <;> rw [hkey] at h
    · cases h
    · simp only [bind, Except.bind] at h
      rcases hvalue : Layout.takeBlock rest with e | ⟨value, rest'⟩ <;> rw [hvalue] at h
      · cases h
      · have hone : ∀ e ∈ (m.insert key value).entries, FitsEntry e := by
          intro e he
          rcases Entries.mem_insert he with rfl | he
          · exact ⟨length_of_takeBlock hkey, length_of_takeBlock hvalue⟩
          · exact hm e he
        dsimp only at h
        obtain ⟨hentries, hsize⟩ := ih h hone
        have hgrown : (m.insert key value).size ≤ m.size + 1 := length_entriesInsert_le _ _ _
        exact ⟨hentries, by omega⟩

/-- A map that is read fits. -/
theorem fits_of_decode {bytes : Bytes} {m : ByteMap} (h : decode bytes = .ok m) : m.Fits := by
  rw [decode] at h
  rcases hcount : Layout.takeWord bytes with e | ⟨n, rest⟩ <;> rw [hcount] at h
  · cases h
  · obtain ⟨hentries, hsize⟩ := fits_of_takeEntries h fun e he => absurd he List.not_mem_nil
    refine ⟨?_, fun he => hentries _ he⟩
    have hempty : empty.size = 0 := rfl
    have hbound := n.toNat_lt_size
    omega

end ByteMap

end RelayHub
