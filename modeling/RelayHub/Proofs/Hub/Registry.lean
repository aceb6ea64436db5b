/-
What a registry knows, by the roles that were registered.

Chains whose names are distinct and not empty are registered without an error,
and each is then found with its own role. Chains that are listed come in the order
of their names, which no two of them share.
-/
import RelayHub.Hub.Registry
import RelayHub.Proofs.Store.ByteMap
import RelayHub.Proofs.Store.Key

set_option autoImplicit false

namespace RelayHub

/-! ## Entries with distinct keys -/

section Entries

variable {α β : Type} [BEq α] [LawfulBEq α] {entries : List (α × β)} {key : α} {value : β}

/-- Where keys are distinct, what is found under a key is what was put there. -/
theorem lookup_eq_some_iff_mem (h : (entries.map Prod.fst).Nodup) :
    entries.lookup key = some value ↔ (key, value) ∈ entries := by
  induction entries with
  | nil => simp
  | cons e rest ih =>
    obtain ⟨other, v⟩ := e
    rw [List.map_cons] at h
    obtain ⟨hother, hrest⟩ := List.nodup_cons.1 h
    by_cases hkey : key = other
    · subst hkey
      have hnot : (key, value) ∉ rest := by
        intro hmem
        exact hother (List.mem_map.2 ⟨_, hmem, rfl⟩)
      simp [hnot, eq_comm]
    · have hbeq : (key == other) = false := beq_eq_false_iff_ne.2 hkey
      simp [List.lookup_cons, hbeq, hkey, ih hrest]

theorem isSome_lookup_iff : (entries.lookup key).isSome = true ↔ key ∈ entries.map Prod.fst := by
  simp only [List.lookup_isSome_iff, List.mem_map, beq_iff_eq]
  simp only [eq_comm]

theorem mem_of_lookup (h : entries.lookup key = some value) : (key, value) ∈ entries := by
  obtain ⟨front, back, rfl, -⟩ := List.lookup_eq_some_iff.1 h
  exact List.mem_append_right front List.mem_cons_self

end Entries

/-! ## Order -/

namespace ChainId

theorem sorted_perm (chains : List ChainId) : (sorted chains).Perm chains :=
  List.mergeSort_perm chains _

/-- Of distinct chains, each stands before all that come after it. -/
theorem sorted_pairwise {chains : List ChainId} (h : chains.Nodup) :
    (sorted chains).Pairwise fun a b => Bytes.before a.bytes b.bytes = true := by
  have hle : (sorted chains).Pairwise fun a b => !(Bytes.before b.bytes a.bytes) := by
    apply List.pairwise_mergeSort
    · intro a b c hab hbc
      rw [Bool.not_eq_true', Bool.eq_false_iff] at *
      intro hca
      by_cases heq : a.bytes = b.bytes
      · exact hbc (heq ▸ hca)
      · have hlt : Bytes.before a.bytes b.bytes = true :=
          Bytes.before_of_not (Ne.symm heq) (Bool.eq_false_iff.2 hab)
        exact hbc (Bytes.before_trans hca hlt)
    · intro a b
      rw [Bool.or_eq_true, Bool.not_eq_true', Bool.not_eq_true', Bool.eq_false_iff,
        Bool.eq_false_iff, ← Decidable.not_and_iff_not_or_not]
      rintro ⟨hba, hab⟩
      have hself := Bytes.before_trans hab hba
      rw [Bytes.before_irrefl] at hself
      cases hself
  have hne : (sorted chains).Nodup := (sorted_perm chains).nodup_iff.2 h
  apply hle.imp₂ _ hne
  intro a b hab hdiff
  apply Bytes.before_of_not
  · intro heq
    exact hdiff (bytes_inj.1 heq).symm
  · simpa using hab

end ChainId

/-! ## Registering -/

namespace Registry

variable {r : Registry} {chain : ChainId} {role : ChainRole}

theorem contains_iff : r.contains chain = true ↔ chain ∈ r.roles.map Prod.fst :=
  isSome_lookup_iff

/-- A chain with a name that is new is registered after all others. -/
theorem register_of_new (hnamed : chain.isEmpty = false) (hnew : chain ∉ r.roles.map Prod.fst) :
    r.register chain role = .ok ⟨r.roles ++ [(chain, role)]⟩ := by
  have hunknown : ¬ (r.role? chain).isSome = true := by
    rw [role?, isSome_lookup_iff]
    exact hnew
  rw [register, hnamed, if_neg (by simp), if_neg hunknown]

variable (h : (r.roles.map Prod.fst).Nodup)
include h

theorem hosted_of_mem {c : LocalChain} (hmem : (chain, .hosted c) ∈ r.roles) :
    r.hosted chain = .ok c := by
  rw [hosted, role?, (lookup_eq_some_iff_mem h).2 hmem]

theorem remote?_of_mem {c : RemoteChain} (hmem : (chain, .remote c) ∈ r.roles) :
    r.remote? chain = some c := by
  rw [remote?, role?, (lookup_eq_some_iff_mem h).2 hmem]

end Registry

end RelayHub
