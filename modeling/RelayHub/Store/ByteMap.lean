/-
Maps from byte strings to byte strings.

A map is a list of entries in increasing order of their keys, each key at most
once; the order is part of the type. `get?_insert` says what the map holds
after an entry is put into it.
-/
import RelayHub.Bytes

set_option autoImplicit false

namespace RelayHub

/-! ## Ordered entries -/

namespace Entries

/-- Puts an entry in its place, over an older one with the same key. -/
def insert (key value : Bytes) : List (Bytes × Bytes) → List (Bytes × Bytes)
  | [] => [(key, value)]
  | e :: rest =>
    if key.before e.1 then (key, value) :: e :: rest
    else if key = e.1 then (key, value) :: rest
    else e :: insert key value rest

/-- Entries in increasing order of their keys. -/
def Ordered (entries : List (Bytes × Bytes)) : Prop :=
  entries.Pairwise fun a b => Bytes.before a.1 b.1 = true

theorem mem_insert {key value : Bytes} {entries : List (Bytes × Bytes)} {e : Bytes × Bytes}
    (h : e ∈ insert key value entries) : e = (key, value) ∨ e ∈ entries := by
  induction entries with
  | nil => simpa [insert] using h
  | cons a rest ih =>
    unfold insert at h
    split at h
    · simpa using h
    · split at h
      · rcases List.mem_cons.1 h with h | h
        · exact .inl h
        · exact .inr (List.mem_cons_of_mem _ h)
      · rcases List.mem_cons.1 h with h | h
        · exact .inr (h ▸ List.mem_cons_self)
        · rcases ih h with h | h
          · exact .inl h
          · exact .inr (List.mem_cons_of_mem _ h)

theorem ordered_insert {key value : Bytes} {entries : List (Bytes × Bytes)}
    (h : Ordered entries) : Ordered (insert key value entries) := by
  induction entries with
  | nil => simp [insert, Ordered]
  | cons a rest ih =>
    obtain ⟨ha, hrest⟩ := List.pairwise_cons.1 h
    unfold insert
    split
    · rename_i hlt
      refine List.pairwise_cons.2 ⟨fun b hb => ?_, h⟩
      rcases List.mem_cons.1 hb with rfl | hb
      · exact hlt
      · exact Bytes.before_trans hlt (ha b hb)
    · split
      · rename_i heq
        exact List.pairwise_cons.2 ⟨fun b hb => heq ▸ ha b hb, hrest⟩
      · rename_i hlt hne
        refine List.pairwise_cons.2 ⟨fun b hb => ?_, ih hrest⟩
        rcases mem_insert hb with rfl | hb
        · exact Bytes.before_of_not hne (by simpa using hlt)
        · exact ha b hb

end Entries

/-! ## Maps -/

/-- A map from byte strings to byte strings. -/
structure ByteMap where
  entries : List (Bytes × Bytes)
  ordered : Entries.Ordered entries
deriving DecidableEq

namespace ByteMap

/-- The map that holds nothing. -/
def empty : ByteMap := ⟨[], List.Pairwise.nil⟩

instance : Inhabited ByteMap := ⟨empty⟩

/-- The value of a key. -/
def get? (m : ByteMap) (key : Bytes) : Option Bytes :=
  m.entries.lookup key

/-- Whether a key has a value. -/
def contains (m : ByteMap) (key : Bytes) : Bool :=
  (m.get? key).isSome

/-- Gives a key a value. -/
def insert (m : ByteMap) (key value : Bytes) : ByteMap :=
  ⟨Entries.insert key value m.entries, Entries.ordered_insert m.ordered⟩

/-- Takes a key's value away. -/
def erase (m : ByteMap) (key : Bytes) : ByteMap :=
  ⟨m.entries.filter fun e => e.1 ≠ key, m.ordered.filter _⟩

/-- Gives a key back what it had before it was given a value. -/
def restore (m : ByteMap) (key : Bytes) : Option Bytes → ByteMap
  | some old => m.insert key old
  | none => m.erase key

/-- Gives several keys their values, one after the other. -/
def insertAll (m : ByteMap) (entries : List (Bytes × Bytes)) : ByteMap :=
  entries.foldl (fun m e => m.insert e.1 e.2) m

/-- How many keys have a value. -/
def size (m : ByteMap) : Nat :=
  m.entries.length

/-! ### What a map holds after an insertion -/

theorem lookup_cons_if (key other value : Bytes) (rest : List (Bytes × Bytes)) :
    List.lookup other ((key, value) :: rest) =
      if other = key then some value else rest.lookup other := by
  by_cases h : other = key
  · simp [h]
  · have hb : (other == key) = false := beq_eq_false_iff_ne.2 h
    rw [List.lookup_cons, hb, if_neg h]

theorem lookup_entriesInsert (key value other : Bytes) (entries : List (Bytes × Bytes)) :
    (Entries.insert key value entries).lookup other =
      if other = key then some value else entries.lookup other := by
  induction entries with
  | nil => rw [Entries.insert, lookup_cons_if]
  | cons a rest ih =>
    unfold Entries.insert
    split
    · rw [lookup_cons_if]
    · split
      · rename_i heq
        rw [lookup_cons_if, lookup_cons_if, heq]
        split <;> rfl
      · rename_i hne
        rw [lookup_cons_if, lookup_cons_if, ih]
        by_cases h : other = a.1
        · have : other ≠ key := fun e => hne (e ▸ h)
          simp [h, h ▸ this]
        · simp [h]

/-- A key has the value last given to it, and other keys have what they had. -/
theorem get?_insert (m : ByteMap) (key value other : Bytes) :
    (m.insert key value).get? other = if other = key then some value else m.get? other :=
  lookup_entriesInsert key value other m.entries

end ByteMap

end RelayHub
