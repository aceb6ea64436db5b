/-
The archive of the blocks that were stored, in the order in which they were.

A hash leads to the number it was last stored with, and a number to the block
last stored under it, with some link. If numbers and hashes go together, the
link is known too: it leads to the first block that names the hash as that of
its predecessor, among those stored after the first block of the number. So a
block that is stored again keeps its link, a block that comes before its
predecessor is never linked to, and of two successors the first one stays.
-/
import Mathlib.Data.List.Induction
import Mathlib.Data.List.TakeWhile
import RelayHub.Proofs.Store.Archive

set_option autoImplicit false

namespace RelayHub

open BlockStore

/-! ## Blocks in the order of storing -/

/-- The block last stored under a number. -/
def lastAt (bs : List StoredBlock) (n : UInt64) : Option StoredBlock :=
  bs.reverse.find? fun b => b.number = n

/-- The block last stored with a hash. -/
def lastWith (bs : List StoredBlock) (h : String) : Option StoredBlock :=
  bs.reverse.find? fun b => b.hash = h

/-- Whether a block names a hash as that of its predecessor. -/
def StoredBlock.Follows (b : StoredBlock) (h : String) : Prop :=
  b.previousHash ≠ "" ∧ b.previousHash = h

instance (b : StoredBlock) (h : String) : Decidable (b.Follows h) :=
  inferInstanceAs (Decidable (_ ∧ _))

/-- What was stored from the first block of a number on. -/
def fromFirst (bs : List StoredBlock) (n : UInt64) : List StoredBlock :=
  bs.dropWhile fun b => !decide (b.number = n)

/-- The first block that was stored after the first one of a number and follows
it. -/
def successor? (bs : List StoredBlock) (n : UInt64) : Option StoredBlock :=
  match fromFirst bs n with
  | [] => none
  | first :: later => later.find? fun b => b.Follows first.hash

/-- The block last stored under a number, linked to its successor. -/
def held (bs : List StoredBlock) (n : UInt64) : Option StoredBlock :=
  (lastAt bs n).map fun b => { b with nextHash := (successor? bs n).map StoredBlock.hash }

section Last

variable {bs : List StoredBlock} {b c : StoredBlock} {n : UInt64} {h : String}

theorem lastAt_concat : lastAt (bs ++ [b]) n = if b.number = n then some b else lastAt bs n := by
  rw [lastAt, List.reverse_concat, List.find?_cons]
  by_cases hn : b.number = n
  · simp [hn]
  · simp [hn, lastAt]

theorem lastWith_concat : lastWith (bs ++ [b]) h = if b.hash = h then some b else lastWith bs h := by
  rw [lastWith, List.reverse_concat, List.find?_cons]
  by_cases hh : b.hash = h
  · simp [hh]
  · simp [hh, lastWith]

theorem of_lastAt (hb : lastAt bs n = some b) : b ∈ bs ∧ b.number = n := by
  have hmem := List.mem_of_find?_eq_some hb
  have hnumber := List.find?_some hb
  exact ⟨List.mem_reverse.1 hmem, by simpa using hnumber⟩

theorem of_lastWith (hb : lastWith bs h = some b) : b ∈ bs ∧ b.hash = h := by
  have hmem := List.mem_of_find?_eq_some hb
  have hhash := List.find?_some hb
  exact ⟨List.mem_reverse.1 hmem, by simpa using hhash⟩

theorem ne_of_lastAt_eq_none (hnone : lastAt bs n = none) (hb : b ∈ bs) : b.number ≠ n := by
  have hne := List.find?_eq_none.1 hnone b (List.mem_reverse.2 hb)
  simpa using hne

theorem ne_of_lastWith_eq_none (hnone : lastWith bs h = none) (hb : b ∈ bs) : b.hash ≠ h := by
  have hne := List.find?_eq_none.1 hnone b (List.mem_reverse.2 hb)
  simpa using hne

/-! ### Successors -/

theorem of_fromFirst {later : List StoredBlock} (hb : fromFirst bs n = b :: later) :
    b ∈ bs ∧ b.number = n := by
  have hmem : b ∈ fromFirst bs n := by
    rw [hb]
    exact List.mem_cons_self
  have hhead := List.head?_dropWhile_not (fun b : StoredBlock => !decide (b.number = n)) bs
  rw [fromFirst] at hb hmem
  rw [hb] at hhead
  exact ⟨(List.dropWhile_sublist _).subset hmem, by simpa using hhead⟩

theorem ne_of_fromFirst_eq_nil (hnil : fromFirst bs n = []) (hb : b ∈ bs) : b.number ≠ n := by
  have hne := List.dropWhile_eq_nil_iff.1 hnil b hb
  simpa using hne

theorem fromFirst_concat : fromFirst (bs ++ [b]) n =
    if fromFirst bs n = [] then (if b.number = n then [b] else []) else fromFirst bs n ++ [b] := by
  simp only [fromFirst, List.dropWhile_append, List.isEmpty_iff]
  by_cases hn : b.number = n
  · simp [hn]
  · simp [hn]

/-- The first block of a number has no successor yet. -/
theorem successor?_concat_new (hnil : fromFirst bs n = []) : successor? (bs ++ [b]) n = none := by
  rw [successor?, fromFirst_concat, if_pos hnil]
  by_cases hn : b.number = n
  · rw [if_pos hn]
    rfl
  · rw [if_neg hn]

/-- A block becomes the successor of those that it follows and that have none. -/
theorem successor?_concat {first : StoredBlock} {later : List StoredBlock}
    (hfirst : fromFirst bs n = first :: later) :
    successor? (bs ++ [b]) n
      = (successor? bs n).or (if b.Follows first.hash then some b else none) := by
  have hcons : ¬ fromFirst bs n = [] := by
    rw [hfirst]
    exact List.cons_ne_nil _ _
  rw [successor?, successor?, fromFirst_concat, if_neg hcons, hfirst]
  dsimp only [List.cons_append]
  rw [List.find?_append]
  by_cases hfollows : b.Follows first.hash
  · simp [hfollows]
  · simp [hfollows]

end Last

/-! ## Greatest numbers -/

/-- The greatest number of some blocks, or zero if there are none. -/
structure IsTop (bs : List StoredBlock) (top : UInt64) : Prop where
  bound {b : StoredBlock} : b ∈ bs → b.number ≤ top
  attained : (bs = [] ∧ top = 0) ∨ ∃ b ∈ bs, b.number = top

theorem IsTop.concat {bs : List StoredBlock} {b : StoredBlock} {top : UInt64} (h : IsTop bs top) :
    IsTop (bs ++ [b]) (if top ≤ b.number then b.number else top) := by
  have hlast : b ∈ bs ++ [b] := List.mem_append_cons_self
  by_cases hle : top ≤ b.number
  · rw [if_pos hle]
    refine ⟨fun {c} hc => ?_, .inr ⟨b, hlast, rfl⟩⟩
    rcases List.mem_append.1 hc with hc | hc
    · exact UInt64.le_trans (h.bound hc) hle
    · rw [List.mem_singleton.1 hc]
      exact UInt64.le_refl _
  · rw [if_neg hle]
    have hlt : b.number < top := UInt64.not_le.1 hle
    refine ⟨fun {c} hc => ?_, ?_⟩
    · rcases List.mem_append.1 hc with hc | hc
      · exact h.bound hc
      · rw [List.mem_singleton.1 hc]
        exact UInt64.le_of_lt hlt
    · rcases h.attained with ⟨-, rfl⟩ | ⟨c, hc, htop⟩
      · exact absurd hlt UInt64.not_lt_zero
      · exact .inr ⟨c, List.mem_append_left _ hc, htop⟩

namespace Archive

/-- The archive of a store that blocks were stored in, one after the other. -/
def ofStored (bs : List StoredBlock) : Archive :=
  bs.foldl put empty

theorem ofStored_concat (bs : List StoredBlock) (b : StoredBlock) :
    ofStored (bs ++ [b]) = (ofStored bs).put b := by
  rw [ofStored, List.foldl_append]
  rfl

theorem ofStored_latest (bs : List StoredBlock) : IsTop bs ((ofStored bs).latest.getD 0) := by
  induction bs using List.reverseRecOn with
  | nil => exact ⟨List.not_mem_nil.elim, .inl ⟨rfl, rfl⟩⟩
  | append_singleton bs b ih =>
    have hput : (ofStored (bs ++ [b])).latest.getD 0
        = if (ofStored bs).latest.getD 0 ≤ b.number then b.number
          else (ofStored bs).latest.getD 0 := by
      rw [ofStored_concat]
      change (if (ofStored bs).latest.getD 0 ≤ b.number then some b.number
        else (ofStored bs).latest).getD 0 = _
      by_cases hle : (ofStored bs).latest.getD 0 ≤ b.number
      · rw [if_pos hle, if_pos hle, Option.getD_some]
      · rw [if_neg hle, if_neg hle]
    rw [hput]
    exact ih.concat

theorem ofStored_numbers (bs : List StoredBlock) (h : String) :
    (ofStored bs).numbers h = (lastWith bs h).map StoredBlock.number := by
  induction bs using List.reverseRecOn with
  | nil => rfl
  | append_singleton bs b ih =>
    have hput : (ofStored (bs ++ [b])).numbers h
        = if h = b.hash then some b.number else (ofStored bs).numbers h := by
      rw [ofStored_concat]
      rfl
    rw [hput, lastWith_concat, ih]
    by_cases hh : h = b.hash
    · rw [if_pos hh, if_pos hh.symm, Option.map_some]
    · rw [if_neg hh, if_neg fun e => hh e.symm]

/-- Under a number there is the block last stored under it, with some link. -/
theorem ofStored_blocks_linked (bs : List StoredBlock) (n : UInt64) :
    ∃ next, (ofStored bs).blocks n = (lastAt bs n).map fun b => { b with nextHash := next } := by
  induction bs using List.reverseRecOn generalizing n with
  | nil => exact ⟨none, rfl⟩
  | append_singleton bs b ih =>
    have hput : (ofStored (bs ++ [b])).blocks n
        = if n = b.number then some (keepLink b ((ofStored bs).blocks n))
          else (ofStored bs).relinked b n := by
      rw [ofStored_concat]
      rfl
    rw [hput, lastAt_concat]
    by_cases hn : n = b.number
    · rw [if_pos hn, if_pos hn.symm]
      exact ⟨_, congrArg some (keepLink_eq b _)⟩
    · rw [if_neg hn, if_neg fun e => hn e.symm]
      obtain ⟨next, hnext⟩ := ih n
      rw [relinked]
      cases hp : (ofStored bs).predecessor? b with
      | none => exact ⟨next, hnext⟩
      | some p =>
        dsimp only
        by_cases hnp : n = p.number
        · -- What is linked is what was there.
          have hstored : (ofStored bs).blocks n = some p := hnp ▸ predecessor_stored hp
          rw [if_pos hnp]
          rw [hstored] at hnext
          obtain ⟨last, hlast, hpl⟩ := Option.map_eq_some_iff.1 hnext.symm
          rw [hlast, ← hpl]
          exact ⟨some b.hash, rfl⟩
        · rw [if_neg hnp]
          exact ⟨next, hnext⟩

end Archive

/-! ## Numbers and hashes that go together -/

/-- Blocks with no links of their own, of which none is its own predecessor, and
no number comes with two hashes or the other way round. -/
structure Unforked (bs : List StoredBlock) : Prop where
  unlinked {b : StoredBlock} : b ∈ bs → b.nextHash = none
  apart {b : StoredBlock} : b ∈ bs → b.previousHash ≠ b.hash
  agree {b c : StoredBlock} : b ∈ bs → c ∈ bs → (b.number = c.number ↔ b.hash = c.hash)

namespace Unforked

variable {bs : List StoredBlock} {b : StoredBlock} {n : UInt64}

theorem of_concat (h : Unforked (bs ++ [b])) : Unforked bs where
  unlinked hb := h.unlinked (List.mem_append_left _ hb)
  apart hb := h.apart (List.mem_append_left _ hb)
  agree hb hc := h.agree (List.mem_append_left _ hb) (List.mem_append_left _ hc)

/-- The first block of a number and the last one have one hash. -/
theorem first_hash (h : Unforked bs) {first last : StoredBlock} {later : List StoredBlock}
    (hfirst : fromFirst bs n = first :: later) (hlast : lastAt bs n = some last) :
    first.hash = last.hash := by
  obtain ⟨hmem, hnumber⟩ := of_fromFirst hfirst
  obtain ⟨hmem', hnumber'⟩ := of_lastAt hlast
  exact (h.agree hmem hmem').1 (hnumber.trans hnumber'.symm)

end Unforked

/-- What is held under a number has that number. -/
theorem held_number {bs : List StoredBlock} {b : StoredBlock} {n : UInt64}
    (h : held bs n = some b) : b.number = n := by
  obtain ⟨last, hlast, rfl⟩ := Option.map_eq_some_iff.1 h
  exact (of_lastAt hlast).2

theorem held_eq_none {bs : List StoredBlock} {n : UInt64} (h : fromFirst bs n = []) :
    held bs n = none := by
  cases hlast : lastAt bs n with
  | none => rw [held, hlast, Option.map_none]
  | some last =>
    obtain ⟨hmem, hnumber⟩ := of_lastAt hlast
    exact absurd hnumber (ne_of_fromFirst_eq_nil h hmem)

theorem lastAt_of_fromFirst {bs later : List StoredBlock} {first : StoredBlock} {n : UInt64}
    (h : fromFirst bs n = first :: later) : ∃ last, lastAt bs n = some last := by
  obtain ⟨hmem, hnumber⟩ := of_fromFirst h
  cases hlast : lastAt bs n with
  | none => exact absurd hnumber (ne_of_lastAt_eq_none hlast hmem)
  | some last => exact ⟨last, rfl⟩

/-! ### The next block -/

/-- Whether a number is the one that the hash of a block's predecessor leads to,
and no successor has been stored yet. -/
def Precedes (bs : List StoredBlock) (n : UInt64) (b : StoredBlock) : Prop :=
  b.previousHash ≠ "" ∧ (lastWith bs b.previousHash).map StoredBlock.number = some n ∧
    successor? bs n = none

instance (bs : List StoredBlock) (n : UInt64) (b : StoredBlock) : Decidable (Precedes bs n b) :=
  inferInstanceAs (Decidable (_ ∧ _ ∧ _))

section Next

variable {bs : List StoredBlock} {b : StoredBlock} {n : UInt64} (h : Unforked (bs ++ [b]))
include h

/-- A block that is stored again keeps its link, and one that is new has none. -/
theorem held_concat_same : held (bs ++ [b]) b.number = some (keepLink b (held bs b.number)) := by
  have hlast : b ∈ bs ++ [b] := List.mem_append_cons_self
  have hunlinked : b.nextHash = none := h.unlinked hlast
  have hheld : held (bs ++ [b]) b.number
      = some { b with nextHash := (successor? (bs ++ [b]) b.number).map StoredBlock.hash } := by
    rw [held, lastAt_concat, if_pos rfl, Option.map_some]
  rw [hheld]
  cases hfirst : fromFirst bs b.number with
  | nil =>
    rw [successor?_concat_new hfirst, held_eq_none hfirst]
    simp only [keepLink, Option.map_none, ← hunlinked]
  | cons first later =>
    obtain ⟨old, hold⟩ := lastAt_of_fromFirst hfirst
    obtain ⟨hmem, hnumber⟩ := of_lastAt hold
    have hhash : old.hash = b.hash := (h.agree (List.mem_append_left _ hmem) hlast).1 hnumber
    -- It is not its own successor.
    have hfirstHash : first.hash = b.hash := (h.of_concat.first_hash hfirst hold).trans hhash
    have hfollows : ¬ b.Follows first.hash := by
      rintro ⟨-, hself⟩
      exact h.apart hlast (hself.trans hfirstHash)
    rw [successor?_concat hfirst, if_neg hfollows, Option.or_none]
    rw [held, hold, Option.map_some, keepLink, if_pos ⟨hhash, hunlinked⟩]

/-- Of the blocks with other numbers the next block changes the one whose hash
it names, if that has no link. -/
theorem held_concat_other (hn : n ≠ b.number) :
    held (bs ++ [b]) n =
      if Precedes bs n b then (held bs n).map fun p => { p with nextHash := some b.hash }
      else held bs n := by
  have hbs : Unforked bs := h.of_concat
  have hlastAt : lastAt (bs ++ [b]) n = lastAt bs n := by
    rw [lastAt_concat, if_neg fun e => hn e.symm]
  cases hfirst : fromFirst bs n with
  | nil =>
    have hnone : held (bs ++ [b]) n = none := by
      refine held_eq_none ?_
      rw [fromFirst_concat, if_pos hfirst, if_neg fun e => hn e.symm]
    rw [hnone, held_eq_none hfirst, Option.map_none, ite_self]
  | cons first later =>
    obtain ⟨last, hlast⟩ := lastAt_of_fromFirst hfirst
    obtain ⟨hmem, hnumber⟩ := of_fromFirst hfirst
    -- The block follows the first one of the number if the hash it names leads there.
    have hfollows : b.Follows first.hash ↔ b.previousHash ≠ "" ∧
        (lastWith bs b.previousHash).map StoredBlock.number = some n := by
      constructor
      · rintro ⟨hfilled, hhash⟩
        refine ⟨hfilled, ?_⟩
        cases hp : lastWith bs b.previousHash with
        | none => exact absurd hhash.symm (ne_of_lastWith_eq_none hp hmem)
        | some p =>
          obtain ⟨hpmem, hphash⟩ := of_lastWith hp
          have hsame := (hbs.agree hpmem hmem).2 (hphash.trans hhash)
          rw [Option.map_some, hsame, hnumber]
      · rintro ⟨hfilled, hnumbered⟩
        obtain ⟨p, hp, hpn⟩ := Option.map_eq_some_iff.1 hnumbered
        obtain ⟨hpmem, hphash⟩ := of_lastWith hp
        have hsame := (hbs.agree hpmem hmem).1 (hpn.trans hnumber.symm)
        exact ⟨hfilled, hphash.symm.trans hsame⟩
    rw [held, held, hlastAt, hlast, successor?_concat hfirst, Option.map_some, Option.map_some]
    by_cases hb : b.Follows first.hash
    · obtain ⟨hfilled, hnumbered⟩ := hfollows.1 hb
      rw [if_pos hb]
      cases hnext : successor? bs n with
      | none =>
        have hprecedes : Precedes bs n b := ⟨hfilled, hnumbered, hnext⟩
        rw [if_pos hprecedes]
        rfl
      | some c =>
        have hprecedes : ¬ Precedes bs n b := by
          rintro ⟨-, -, hnone⟩
          rw [hnone] at hnext
          cases hnext
        rw [if_neg hprecedes]
        rfl
    · have hother : ¬ Precedes bs n b := by
        rintro ⟨hfilled, hnumbered, -⟩
        exact hb (hfollows.2 ⟨hfilled, hnumbered⟩)
      rw [if_neg hb, if_neg hother, Option.or_none]

end Next

namespace Archive

variable {bs : List StoredBlock} {b : StoredBlock} {n : UInt64}

/-- The same is changed in the archive. -/
theorem relinked_of_held (hblocks : ∀ n, (ofStored bs).blocks n = held bs n) :
    (ofStored bs).relinked b n =
      if Precedes bs n b then (held bs n).map fun p => { p with nextHash := some b.hash }
      else held bs n := by
  have hfree : ∀ {p}, held bs n = some p → (p.nextHash = none ↔ successor? bs n = none) := by
    intro p hp
    obtain ⟨last, -, rfl⟩ := Option.map_eq_some_iff.1 hp
    exact Option.map_eq_none_iff
  rw [relinked, hblocks]
  by_cases hb : Precedes bs n b
  · obtain ⟨hfilled, hnumbered, hnext⟩ := id hb
    have hfilled' : ¬ b.previousHash.isEmpty = true := by simpa using hfilled
    have hpredecessor : (ofStored bs).predecessor? b = held bs n := by
      rw [predecessor?, if_neg hfilled', ofStored_numbers, hnumbered, Option.bind_some, hblocks]
      cases hp : held bs n with
      | none => rfl
      | some p => simp [Option.filter, (hfree hp).2 hnext]
    rw [if_pos hb, hpredecessor]
    cases hp : held bs n with
    | none => rfl
    | some p =>
      dsimp only
      rw [if_pos (held_number hp).symm]
      rfl
  · rw [if_neg hb]
    cases hp : (ofStored bs).predecessor? b with
    | none => rfl
    | some p =>
      -- The block that is linked has another number.
      have hother : n ≠ p.number := by
        rintro rfl
        have hstored : held bs p.number = some p := by
          rw [← hblocks]
          exact predecessor_stored hp
        rw [predecessor?, ofStored_numbers] at hp
        split at hp
        · cases hp
        · rename_i hfilled
          obtain ⟨hfound, hunlinked⟩ := Option.filter_eq_some_iff.1 hp
          obtain ⟨m, hm, hpm⟩ := Option.bind_eq_some_iff.1 hfound
          rw [hblocks] at hpm
          obtain rfl := held_number hpm
          exact hb ⟨by simpa using hfilled, hm, (hfree hstored).1 (by simpa using hunlinked)⟩
      dsimp only
      rw [if_neg hother]

/-- The archive of blocks whose numbers and hashes go together. -/
theorem ofStored_blocks (h : Unforked bs) (n : UInt64) : (ofStored bs).blocks n = held bs n := by
  induction bs using List.reverseRecOn generalizing n with
  | nil => rfl
  | append_singleton bs b ih =>
    have hblocks := ih h.of_concat
    have hput : (ofStored (bs ++ [b])).blocks n
        = if n = b.number then some (keepLink b ((ofStored bs).blocks n))
          else (ofStored bs).relinked b n := by
      rw [ofStored_concat]
      rfl
    rw [hput]
    by_cases hn : n = b.number
    · rw [if_pos hn, hn, hblocks, held_concat_same h]
    · rw [if_neg hn, relinked_of_held hblocks, held_concat_other h hn]

end Archive

end RelayHub
