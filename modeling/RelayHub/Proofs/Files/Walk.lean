/-
Ways that lead somewhere go on leading there.

What an operation does to a tree is said once for each: it puts something at a
place where there is no directory, and a move takes away the file that it moves.
So a directory that is there stays, with all the directories above it, and a path
that leads to a place leads there for ever. Two files in directories that are
there are therefore two places for good.
-/
import RelayHub.Proofs.Files.Orderly

set_option autoImplicit false

namespace RelayHub

namespace FileTree

variable {t t' : FileTree} {p : Path} {place other : List String}

/-! ## What operations do -/

theorem of_read {bytes : Bytes} (h : t.read p = .ok bytes) :
    ∃ place, t.locate p = .ok (.inside place) ∧ t.node? place = some (.file bytes) := by
  rw [read] at h
  rcases hspot : t.locate p with e | spot <;> rw [hspot] at h
  · cases h
  · rcases spot with place | _ | _
    · simp only [bind, Except.bind] at h
      rcases hnode : t.node? place with _ | ⟨content⟩ | _ <;> rw [hnode] at h
      · cases h
      · dsimp only at h
        split at h
        · cases h
          exact ⟨place, rfl, hnode⟩
        · cases h
      · cases h
    · cases h
    · cases h

theorem of_makeDirectory (h : t.makeDirectory p = .ok t') :
    ∃ place, t.locate p = .ok (.inside place) ∧ t.node? place = none ∧
      t' = t.set place .directory := by
  rw [makeDirectory] at h
  rcases hspot : t.locate p with e | spot <;> rw [hspot] at h
  · cases h
  · rcases spot with place | _ | _
    · simp only [bind, Except.bind] at h
      rcases hnode : t.node? place with _ | ⟨content⟩ | _ <;> rw [hnode] at h
      · dsimp only at h
        split at h
        · cases h
        · cases h
          exact ⟨place, rfl, hnode, rfl⟩
      · cases h
      · cases h
    · cases h
    · cases h

theorem of_createFile (h : t.createFile p = .ok t') :
    ∃ place, t.locate p = .ok (.inside place) ∧ t.node? place ≠ some .directory ∧
      t' = t.set place (.file []) := by
  rw [createFile] at h
  rcases hspot : t.locate p with e | spot <;> rw [hspot] at h
  · cases h
  · rcases spot with place | _ | _
    · simp only [bind, Except.bind] at h
      refine ⟨place, rfl, ?_⟩
      rcases hnode : t.node? place with _ | ⟨content⟩ | _ <;> rw [hnode] at h
      · dsimp only at h
        split at h <;> cases h
        exact ⟨by simp, rfl⟩
      · dsimp only at h
        split at h <;> cases h
        exact ⟨by simp, rfl⟩
      · cases h
    · cases h
    · cases h

theorem of_appendFile {bytes : Bytes} (h : t.appendFile p bytes = .ok t') :
    ∃ place content, t.locate p = .ok (.inside place) ∧
      t.node? place = some (.file content) ∧ t' = t.set place (.file (content ++ bytes)) := by
  rw [appendFile] at h
  rcases hread : t.read p with e | content <;> rw [hread] at h
  · cases h
  · obtain ⟨place, hplace, hnode⟩ := of_read hread
    rw [hplace] at h
    cases h
    exact ⟨place, content, hplace, hnode, rfl⟩

theorem of_rename {source target : Path} (h : t.rename source target = .ok t') :
    ∃ old new content, t.locate source = .ok (.inside old) ∧
      t.locate target = .ok (.inside new) ∧ t.node? old = some (.file content) ∧
      t.node? new ≠ some .directory ∧
      t' = if old = new then t else (t.erase old).set new (.file content) := by
  rw [rename] at h
  rcases hread : t.read source with e | content <;> rw [hread] at h
  · cases h
  · obtain ⟨old, hold, hnode⟩ := of_read hread
    rw [hold] at h
    rcases hspot : t.locate target with e | spot <;> rw [hspot] at h
    · cases h
    · rcases spot with new | _ | _
      · refine ⟨old, new, content, hold, rfl, hnode, ?_⟩
        simp only [bind, Except.bind] at h
        split at h
        · cases h
        · rename_i hfree
          refine ⟨hfree, ?_⟩
          split at h
          · cases h
          · split at h <;> cases h
            · rename_i hsame
              rw [if_pos hsame]
            · rename_i hdiff
              rw [if_neg hdiff]
      · cases h
      · cases h

theorem lookup_filter_key {α β : Type} [BEq α] [LawfulBEq α] (keep : α → Bool) (key : α)
    (entries : List (α × β)) :
    (entries.filter fun e => keep e.1).lookup key
      = if keep key then entries.lookup key else none := by
  induction entries with
  | nil => simp
  | cons e rest ih =>
    obtain ⟨other, value⟩ := e
    by_cases hkey : key = other
    · subst hkey
      cases hkeep : keep key <;> simp [hkeep, ih]
    · have hbeq : (key == other) = false := beq_eq_false_iff_ne.2 hkey
      cases hkeep : keep other <;> simp [hkeep, List.lookup_cons, hbeq, ih]

/-- What is taken away is away with everything below it, and nothing else is. -/
theorem node?_erase (t : FileTree) (place : List String) (hother : other ≠ []) :
    (t.erase place).node? other = if place <+: other then none else t.node? other := by
  have hempty : other.isEmpty = false := by simpa using hother
  simp only [node?, hempty, Bool.false_eq_true, if_false, erase]
  rw [lookup_filter_key fun key => !(place.isPrefixOf key)]
  by_cases hbelow : place <+: other
  · rw [List.isPrefixOf_iff_prefix.2 hbelow, if_pos hbelow]
    rfl
  · have hapart : place.isPrefixOf other = false := by
      rw [Bool.eq_false_iff, ne_eq, List.isPrefixOf_iff_prefix]
      exact hbelow
    rw [hapart, if_neg hbelow]
    rfl

theorem ne_nil_of_node? (h : t.node? place ≠ some .directory) : place ≠ [] := by
  rintro rfl
  exact h rfl

/-! ## Directories that stay -/

/-- A place with nothing but directories on the way to it, itself included. -/
def Open (t : FileTree) (place : List String) : Prop :=
  ∀ above, above <+: place → t.node? above = some .directory

theorem open_nil (t : FileTree) : t.Open [] := by
  intro above h
  rw [List.prefix_nil] at h
  subst h
  rfl

theorem Open.of_prefix (h : t.Open place) (hp : other <+: place) : t.Open other :=
  fun above habove => h above (habove.trans hp)

theorem Open.of_dropLast (h : t.Open place.dropLast) (hplace : t.node? place = some .directory) :
    t.Open place := by
  rcases List.eq_nil_or_concat place with rfl | ⟨front, last, rfl⟩
  · exact t.open_nil
  · intro above habove
    rw [List.concat_eq_append] at h hplace habove
    rw [List.dropLast_concat] at h
    rcases List.prefix_concat_iff.1 habove with rfl | habove
    · exact hplace
    · exact h above habove

theorem Open.set (h : t.Open place) {n : FileNode} (hfree : t.node? other ≠ some .directory) :
    (t.set other n).Open place := by
  intro above habove
  have hdirectory := h above habove
  have hne : above ≠ other := by
    rintro rfl
    exact hfree hdirectory
  rw [node?_set t (ne_nil_of_node? hfree), if_neg hne]
  exact hdirectory

theorem Open.erase (h : t.Open place) {content : Bytes}
    (hfile : t.node? other = some (.file content)) : (t.erase other).Open place := by
  intro above habove
  have hdirectory := h above habove
  by_cases htop : above = []
  · rw [htop]
    rfl
  · have hkept : ¬ other <+: above := by
      intro hother
      rw [h other (hother.trans habove)] at hfile
      cases hfile
    rw [node?_erase t other htop, if_neg hkept]
    exact hdirectory

/-- A tree in which all directories of another are still there. -/
def Keeps (t t' : FileTree) : Prop :=
  ∀ place, t.Open place → t'.Open place

theorem keeps_self : t.Keeps t := fun _ h => h

theorem Keeps.trans {t₁ t₂ t₃ : FileTree} (h : t₁.Keeps t₂) (h' : t₂.Keeps t₃) : t₁.Keeps t₃ :=
  fun place hopen => h' place (h place hopen)

theorem keeps_of_makeDirectory (h : t.makeDirectory p = .ok t') : t.Keeps t' := by
  obtain ⟨place, -, hnone, rfl⟩ := of_makeDirectory h
  intro q hq
  exact hq.set (by rw [hnone]; simp)

theorem keeps_of_createFile (h : t.createFile p = .ok t') : t.Keeps t' := by
  obtain ⟨place, -, hfree, rfl⟩ := of_createFile h
  intro q hq
  exact hq.set hfree

theorem keeps_of_appendFile {bytes : Bytes} (h : t.appendFile p bytes = .ok t') : t.Keeps t' := by
  obtain ⟨place, content, -, hfile, rfl⟩ := of_appendFile h
  intro q hq
  exact hq.set (by rw [hfile]; simp)

theorem keeps_of_rename {source target : Path} (h : t.rename source target = .ok t') :
    t.Keeps t' := by
  obtain ⟨old, new, content, -, -, hfile, hfree, rfl⟩ := of_rename h
  intro q hq
  split
  · exact hq
  · rename_i hne
    apply (hq.erase hfile).set
    rw [node?_erase t old (ne_nil_of_node? hfree)]
    split
    · simp
    · exact hfree

theorem keeps_makeDirectories (depth : Nat) (p : Path) (t : FileTree) :
    t.Keeps (makeDirectories depth p t).2 := by
  fun_induction makeDirectories depth p t with
  | case1 => exact keeps_self
  | case2 _ _ _ _ hmade => exact keeps_of_makeDirectory hmade
  | case3 _ _ _ _ _ _ _ _ habove ih =>
    rw [habove] at ih
    exact ih
  | case4 _ _ _ _ _ _ _ habove _ hmade ih =>
    rw [habove] at ih
    exact ih.trans (keeps_of_makeDirectory hmade)
  | case5 _ _ _ _ _ _ _ habove _ _ ih =>
    rw [habove] at ih
    exact ih
  | case6 => exact keeps_self
  | case7 => exact keeps_self

/-- Whatever is done to a tree, the directories that are there stay. -/
theorem keeps_of_perform {step : FileStep} {r : Except FileError Unit}
    (h : system.perform step t = (r, t')) : t.Keeps t' := by
  cases step with
  | makeDirectories path =>
    have hkeeps := keeps_makeDirectories path.steps.length path t
    rw [show makeDirectories path.steps.length path t = (r, t') from h] at hkeeps
    exact hkeeps
  | create path =>
    rcases of_perform (t.createFile path) rfl h with ⟨-, hdone⟩ | ⟨_, -, rfl⟩
    · exact keeps_of_createFile hdone
    · exact keeps_self
  | append path bytes =>
    rcases of_perform (t.appendFile path bytes) rfl h with ⟨-, hdone⟩ | ⟨_, -, rfl⟩
    · exact keeps_of_appendFile hdone
    · exact keeps_self
  | sync path =>
    cases h
    exact keeps_self
  | rename source target =>
    rcases of_perform (t.rename source target) rfl h with ⟨-, hdone⟩ | ⟨_, -, rfl⟩
    · exact keeps_of_rename hdone
    · exact keeps_self

theorem keeps_of_torn {step : FileStep} (h : Torn step t t') : t.Keeps t' := by
  cases step with
  | append path bytes =>
    obtain ⟨n, hdone⟩ := h
    exact keeps_of_appendFile hdone
  | makeDirectories | create | sync | rename =>
    rcases h with rfl | h
    · exact keeps_self
    · exact keeps_of_perform h

/-! ## Walking -/

/-- Outside the working directory there is nothing to depend on. -/
theorem walk_above (t t' : FileTree) (n : Nat) (place : List String) (steps : List String) :
    t.walk (some n) place steps = t'.walk (some n) place steps := by
  induction steps generalizing n place with
  | nil => rfl
  | cons step rest ih =>
    rw [walk, walk, ih]

/-- Nothing leads back into the working directory. -/
theorem walk_above_ne_inside {n : Nat} {place steps q : List String} :
    t.walk (some n) place steps ≠ .ok (.inside q) := by
  induction steps generalizing n place with
  | nil => simp [walk]
  | cons step rest ih =>
    rw [walk]
    split
    · simp
    · split
      · exact ih
      · split <;> simp

/-- A step from a directory leads up or down. -/
theorem walk_step {step : String} {rest : List String}
    (hdirectory : t.node? place = some .directory) (hfits : (Utf8.encode step).length ≤ 255) :
    t.walk none place (step :: rest) =
      if step = ".." then
        if place.isEmpty then t.walk (some 1) [] rest else t.walk none place.dropLast rest
      else t.walk none (place ++ [step]) rest := by
  have hshort : ¬ 255 < (Utf8.encode step).length := by omega
  rw [walk]
  simp only [hdirectory, hshort, decide_false, Bool.false_eq_true, if_false]

/-- A step that leads anywhere is one from a directory. -/
theorem walk_cons {step : String} {rest : List String} {spot : Spot}
    (h : t.walk none place (step :: rest) = .ok spot) :
    t.node? place = some .directory ∧ (Utf8.encode step).length ≤ 255 := by
  rw [walk] at h
  rcases hnode : t.node? place with _ | ⟨content⟩ | _ <;> rw [hnode] at h
  · cases h
  · cases h
  · dsimp only at h
    split at h
    · cases h
    · rename_i hshort
      exact ⟨rfl, by simpa using hshort⟩

/-- Steps that lead down lead on from where others have led to. -/
theorem walk_append {steps more q : List String} (h : t.walk none place steps = .ok (.inside q)) :
    t.walk none place (steps ++ more) = t.walk none q more := by
  induction steps generalizing place with
  | nil =>
    cases h
    rfl
  | cons step rest ih =>
    obtain ⟨hdirectory, hfits⟩ := walk_cons h
    rw [walk_step hdirectory hfits] at h
    rw [List.cons_append, walk_step hdirectory hfits]
    split at h
    · rename_i hup
      rw [if_pos hup]
      split at h
      · -- Steps that have led out of the working directory do not lead back into it.
        exact absurd h walk_above_ne_inside
      · rename_i hplace
        rw [if_neg hplace]
        exact ih h
    · rename_i hdown
      rw [if_neg hdown]
      exact ih h

/-- On the way to a place there are directories only. -/
theorem open_of_walk {steps q : List String} (hplace : t.Open place.dropLast)
    (h : t.walk none place steps = .ok (.inside q)) : t.Open q.dropLast := by
  induction steps generalizing place with
  | nil =>
    cases h
    exact hplace
  | cons step rest ih =>
    obtain ⟨hdirectory, hfits⟩ := walk_cons h
    have hopen := hplace.of_dropLast hdirectory
    rw [walk_step hdirectory hfits] at h
    split at h
    · split at h
      · exact absurd h walk_above_ne_inside
      · exact ih (hplace.of_prefix (List.dropLast_prefix _)) h
    · apply ih _ h
      rw [List.dropLast_concat]
      exact hopen

/-- What a way leads to, it leads to as long as directories stay. -/
theorem Keeps.walk (hkeeps : t.Keeps t') {steps : List String} {spot : Spot}
    (hplace : t.Open place.dropLast) (h : t.walk none place steps = .ok spot) :
    t'.walk none place steps = .ok spot := by
  induction steps generalizing place with
  | nil => exact h
  | cons step rest ih =>
    obtain ⟨hdirectory, hfits⟩ := walk_cons h
    have hopen := hplace.of_dropLast hdirectory
    -- The step starts from a directory with directories above it, and these stay.
    have hdirectory' : t'.node? place = some .directory :=
      hkeeps place hopen place (List.prefix_refl place)
    rw [walk_step hdirectory hfits] at h
    rw [walk_step hdirectory' hfits]
    split at h
    · rename_i hup
      rw [if_pos hup]
      split at h
      · rename_i htop
        rw [if_pos htop, walk_above t' t]
        exact h
      · rename_i htop
        rw [if_neg htop]
        exact ih (hplace.of_prefix (List.dropLast_prefix _)) h
    · rename_i hdown
      rw [if_neg hdown]
      apply ih _ h
      rw [List.dropLast_concat]
      exact hopen

theorem Keeps.locate (hkeeps : t.Keeps t') {spot : Spot} (h : t.locate p = .ok spot) :
    t'.locate p = .ok spot := by
  rw [FileTree.locate] at h ⊢
  split at h
  · cases h
  · rename_i hwhole
    rw [if_neg hwhole]
    split at h
    · cases h
    · rename_i htext
      rw [if_neg htext]
      split at h
      · cases h
      · rename_i hshort
        rw [if_neg hshort]
        cases hroot : p.absolute with
        | true =>
          rw [hroot, if_pos rfl] at h
          rw [if_pos rfl, walk_above t' t]
          exact h
        | false =>
          rw [hroot, if_neg (by decide)] at h
          rw [if_neg (by decide)]
          exact hkeeps.walk t.open_nil h

/-! ## Making directories -/

theorem isDirectory_of_makeDirectory (h : t.makeDirectory p = .ok t') :
    t'.isDirectory p = true := by
  obtain ⟨place, hplace, hnone, rfl⟩ := of_makeDirectory h
  have hfree : t.node? place ≠ some .directory := by
    rw [hnone]
    simp
  have hne := ne_nil_of_node? hfree
  rw [isDirectory, (keeps_of_makeDirectory h).locate hplace]
  dsimp only
  rw [node?_set t hne, if_pos rfl]
  rfl

/-- If directories are made without an error, there is one at the path. -/
theorem isDirectory_makeDirectories {depth : Nat} (htext : p.text.isEmpty = false)
    (h : (makeDirectories depth p t).1 = .ok ()) :
    (makeDirectories depth p t).2.isDirectory p = true := by
  revert h
  fun_cases makeDirectories depth p t with
  | case1 =>
    rename_i hempty
    rw [htext] at hempty
    cases hempty
  | case2 =>
    rename_i hmade
    intro _
    exact isDirectory_of_makeDirectory hmade
  | case3 => simp
  | case4 =>
    rename_i hmade
    intro _
    exact isDirectory_of_makeDirectory hmade
  | case5 =>
    split
    · intro _
      assumption
    · simp
  | case6 => simp
  | case7 =>
    split
    · intro _
      assumption
    · simp

end FileTree

end RelayHub
