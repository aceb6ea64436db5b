/-
Files in directories that are there.

Once a directory is there, a name in it is at a place that depends on nothing
else, so a file in it is what is at that place. Making the directory once more
changes nothing, and making another one beside it only adds that one.
-/
import RelayHub.Proofs.Files.Walk

set_option autoImplicit false

namespace RelayHub

/-- A path from the working directory to a name that comes after some steps. -/
structure Path.In (p : Path) (steps : List String) (name : String) : Prop where
  relative : p.absolute = false
  steps : p.steps = steps ++ [name]
  ending : p.ending = .step
  down : name ≠ ".."

/-- A name with another extension is a name after the same steps. -/
theorem Path.In.withExtension {p : Path} {steps : List String} {name : String}
    (hp : p.In steps name) {extension : String} (hstem : stem name ≠ ".")
    (hdown : stem name ++ "." ++ extension ≠ "..") :
    (p.withExtension extension).In steps (stem name ++ "." ++ extension) := by
  have hpath : p.withExtension extension
      = ofSteps false (steps ++ [stem name ++ "." ++ extension]) := by
    rw [Path.withExtension, hp.steps, List.getLast?_concat, List.dropLast_concat, hp.relative]
    dsimp only
    rw [if_neg hp.down, if_neg fun h => hstem h.1]
  rw [hpath]
  exact ⟨rfl, rfl, rfl, hdown⟩

namespace FileTree

variable {t t' : FileTree} {p : Path} {steps dir : List String} {name : String}

/-! ## The last step of a way -/

theorem of_walk_above_concat {n : Nat} {place : List String} {spot : Spot} (hname : name ≠ "..")
    (h : t.walk (some n) place (steps ++ [name]) = .ok spot) : spot = .nowhere := by
  induction steps generalizing n place with
  | nil =>
    rw [List.nil_append, walk] at h
    split at h
    · cases h
    · cases h
      rfl
  | cons step rest ih =>
    rw [List.cons_append, walk] at h
    split at h
    · cases h
    · split at h
      · exact ih h
      · rw [if_neg (by simp)] at h
        cases h

/-- A way down to a name leads to the name in a directory, or outside the working
directory to nothing. -/
theorem of_walk_concat {place : List String} {spot : Spot} (hname : name ≠ "..")
    (h : t.walk none place (steps ++ [name]) = .ok spot) :
    spot = .nowhere ∨ ∃ d, t.walk none place steps = .ok (.inside d) ∧
      t.node? d = some .directory ∧ spot = .inside (d ++ [name]) := by
  induction steps generalizing place with
  | nil =>
    obtain ⟨hdirectory, hfits⟩ := walk_cons h
    rw [List.nil_append, walk_step hdirectory hfits, if_neg hname] at h
    cases h
    exact .inr ⟨place, rfl, hdirectory, rfl⟩
  | cons step rest ih =>
    rw [List.cons_append] at h
    obtain ⟨hdirectory, hfits⟩ := walk_cons h
    rw [walk_step hdirectory hfits] at h ⊢
    split at h
    · rename_i hup
      split at h
      · exact .inl (of_walk_above_concat hname h)
      · rename_i hplace
        rw [if_pos hup, if_neg hplace]
        exact ih h
    · rename_i hdown
      rw [if_neg hdown]
      exact ih h

/-! ## Directories -/

/-- Steps from the working directory that lead to a directory. -/
structure Leads (t : FileTree) (steps dir : List String) : Prop where
  walked : t.walk none [] steps = .ok (.inside dir)
  there : t.node? dir = some .directory

theorem Leads.unique {other : List String} (h : t.Leads steps dir) (h' : t.Leads steps other) :
    dir = other := by
  have hwalked := h.walked
  rw [h'.walked] at hwalked
  cases hwalked
  rfl

theorem Leads.isOpen (h : t.Leads steps dir) : t.Open dir :=
  (open_of_walk t.open_nil h.walked).of_dropLast h.there

theorem Keeps.leads (hkeeps : t.Keeps t') (h : t.Leads steps dir) : t'.Leads steps dir where
  walked := hkeeps.walk t.open_nil h.walked
  there := hkeeps dir h.isOpen dir (List.prefix_refl dir)

/-- Where a name in a directory is depends on nothing else. -/
theorem Leads.locate (h : t.Leads steps dir) (hp : p.In steps name) :
    t.locate p =
      if p.text.toList.any (· = Char.ofNat 0) then .error .nulInName
      else if p.text.isEmpty then .error .notFound
      else if 4096 ≤ (Utf8.encode p.text).length then .error .nameTooLong
      else if 255 < (Utf8.encode name).length then .error .nameTooLong
      else .ok (.inside (dir ++ [name])) := by
  have hwalk : t.walk none [] (steps ++ [name]) =
      if 255 < (Utf8.encode name).length then .error .nameTooLong
      else .ok (.inside (dir ++ [name])) := by
    rw [walk_append h.walked, walk]
    simp only [h.there, hp.down, if_false, decide_eq_true_eq]
    rfl
  rw [FileTree.locate, hp.relative, hp.steps, ← hwalk]
  rfl

theorem Leads.of_locate (h : t.Leads steps dir) (hp : p.In steps name) {spot : Spot}
    (hspot : t.locate p = .ok spot) : spot = .inside (dir ++ [name]) := by
  rw [h.locate hp] at hspot
  split at hspot
  · cases hspot
  · split at hspot
    · cases hspot
    · split at hspot
      · cases hspot
      · split at hspot <;> cases hspot
        rfl

theorem Leads.locate_ne_notFound (h : t.Leads steps dir) (hp : p.In steps name)
    (htext : p.text.isEmpty = false) : t.locate p ≠ .error .notFound := by
  rw [h.locate hp, htext]
  split
  · simp
  · rw [if_neg (by decide)]
    split
    · simp
    · split <;> simp

theorem Leads.locate_eq (h : t.Leads steps dir) (h' : t'.Leads steps dir) (hp : p.In steps name) :
    t'.locate p = t.locate p := by
  rw [h.locate hp, h'.locate hp]

/-- A file in a directory is what is at its place. -/
theorem Leads.held_eq (h : t.Leads steps dir) (h' : t'.Leads steps dir) (hp : p.In steps name)
    (hnode : t'.node? (dir ++ [name]) = t.node? (dir ++ [name])) : t'.held p = t.held p := by
  rw [held, held, read, read, h.locate_eq h' hp]
  rcases hspot : t.locate p with e | spot
  · rfl
  · obtain rfl := h.of_locate hp hspot
    simp only [bind, Except.bind]
    rw [hnode]

theorem held_of_node? (hp : p.In steps name)
    (hlocate : t.locate p = .ok (.inside (dir ++ [name]))) {content : Bytes}
    (hnode : t.node? (dir ++ [name]) = some (.file content)) : t.held p = some content := by
  rw [held, read, hlocate]
  simp only [bind, Except.bind]
  rw [hnode]
  dsimp only
  rw [if_pos hp.ending]
  rfl

/-- Where there is no directory, a file can be read, or is missing. -/
theorem eq_notFound_of_read (hp : p.In steps name)
    (hlocate : t.locate p = .ok (.inside (dir ++ [name])))
    (hnode : t.node? (dir ++ [name]) ≠ some .directory) {e : FileError}
    (h : t.read p = .error e) : e = .notFound := by
  rw [read, hlocate] at h
  simp only [bind, Except.bind] at h
  rcases hfile : t.node? (dir ++ [name]) with _ | ⟨content⟩ | _ <;> rw [hfile] at h
  · cases h
    rfl
  · dsimp only at h
    rw [if_pos hp.ending] at h
    cases h
  · exact absurd hfile hnode

theorem ne_directory_of_read (hlocate : t.locate p = .ok (.inside (dir ++ [name])))
    (h : ∀ e, t.read p = .error e → e = .notFound) :
    t.node? (dir ++ [name]) ≠ some .directory := by
  intro hnode
  have hread : t.read p = .error .isDirectory := by
    rw [read, hlocate]
    simp only [bind, Except.bind]
    rw [hnode]
    rfl
  cases h _ hread

/-- What has come to the place of a file is what the file holds. -/
theorem Leads.held_of_node? (h : t.Leads steps dir) (h' : t'.Leads steps dir) (hp : p.In steps name)
    (hlocate : t.locate p = .ok (.inside (dir ++ [name]))) {content : Bytes}
    (hnode : t'.node? (dir ++ [name]) = some (.file content)) : t'.held p = some content := by
  apply FileTree.held_of_node? hp _ hnode
  rw [h.locate_eq h' hp, hlocate]

/-! ## Making directories -/

/-- A path to a directory that is there leads to it, if its text is one at all. -/
theorem Leads.makeDirectory_ne (h : t.Leads steps dir) (habsolute : p.absolute = false)
    (hsteps : p.steps = steps) (htext : p.text.isEmpty = false) :
    t.makeDirectory p ≠ .error .notFound ∧ ∀ made, t.makeDirectory p ≠ .ok made := by
  have hlocate : (∃ e, t.locate p = .error e ∧ e ≠ .notFound) ∨
      t.locate p = .ok (.inside dir) := by
    rw [FileTree.locate, habsolute, hsteps, htext]
    split
    · exact .inl ⟨_, rfl, by simp⟩
    · rw [if_neg (by decide)]
      split
      · exact .inl ⟨_, rfl, by simp⟩
      · exact .inr h.walked
  rw [makeDirectory]
  rcases hlocate with ⟨e, he, hne⟩ | hinside
  · rw [he]
    constructor
    · intro heq
      exact hne (Except.error.inj heq)
    · intro made heq
      cases heq
  · rw [hinside]
    simp only [bind, Except.bind, h.there]
    constructor
    · intro heq
      cases heq
    · intro made heq
      cases heq

/-- If nothing is missing above it, a directory is made, or nothing. -/
theorem makeDirectories_eq_or (depth : Nat)
    (h : p.text.isEmpty = false → t.makeDirectory p ≠ .error .notFound) :
    (makeDirectories depth p t).2 = t ∨
      p.text.isEmpty = false ∧ t.makeDirectory p = .ok (makeDirectories depth p t).2 := by
  -- The three cases in which a directory above is made first begin with one that is missing.
  fun_cases makeDirectories depth p t with
  | case1 => exact .inl rfl
  | case2 =>
    rename_i htext made hmade
    exact .inr ⟨Bool.eq_false_iff.2 htext, hmade⟩
  | case3 =>
    rename_i htext hmissing _ _ _ _ _ _
    exact absurd hmissing (h (Bool.eq_false_iff.2 htext))
  | case4 =>
    rename_i htext hmissing _ _ _ _ _ _ _
    exact absurd hmissing (h (Bool.eq_false_iff.2 htext))
  | case5 =>
    rename_i htext hmissing _ _ _ _ _ _ _
    exact absurd hmissing (h (Bool.eq_false_iff.2 htext))
  | case6 => exact .inl rfl
  | case7 => exact .inl rfl

/-- Making a directory that is there changes nothing. -/
theorem Leads.makeDirectories_self (h : t.Leads steps dir) (habsolute : p.absolute = false)
    (hsteps : p.steps = steps) (depth : Nat) : (makeDirectories depth p t).2 = t := by
  have hne := h.makeDirectory_ne habsolute hsteps
  rcases makeDirectories_eq_or depth fun htext => (hne htext).1 with hsame | ⟨htext, hmade⟩
  · exact hsame
  · exact absurd hmade ((hne htext).2 _)

theorem Leads.makeDirectory_ne_notFound (h : t.Leads steps dir) (hp : p.In steps name)
    (htext : p.text.isEmpty = false) : t.makeDirectory p ≠ .error .notFound := by
  rw [makeDirectory]
  rcases hspot : t.locate p with e | spot
  · intro heq
    have hmissing := Except.error.inj heq
    rw [hmissing] at hspot
    exact h.locate_ne_notFound hp htext hspot
  · obtain rfl := h.of_locate hp hspot
    simp only [bind, Except.bind, hp.ending]
    rcases t.node? (dir ++ [name]) with _ | ⟨content⟩ | _
    · intro heq
      cases heq
    · intro heq
      cases heq
    · intro heq
      cases heq

/-- Making a directory in one that is there makes nothing else. -/
theorem Leads.node?_makeDirectories (h : t.Leads steps dir) (hp : p.In steps name) (depth : Nat)
    {place : List String} (hplace : place ≠ dir ++ [name]) :
    (makeDirectories depth p t).2.node? place = t.node? place := by
  rcases makeDirectories_eq_or depth (h.makeDirectory_ne_notFound hp) with hsame | ⟨-, hmade⟩
  · rw [hsame]
  · obtain ⟨made, hlocate, hnone, hset⟩ := of_makeDirectory hmade
    cases h.of_locate hp hlocate
    rw [hset, node?_set t (by simp), if_neg hplace]

/-- A directory with a name is in a directory, and neither is outside the working
directory. -/
theorem leads_of_isDirectory (hname : name ≠ "..") (hsteps : p.steps = steps ++ [name])
    (h : t.isDirectory p = true) :
    p.absolute = false ∧ ∃ dir, t.Leads steps dir ∧ t.Leads (steps ++ [name]) (dir ++ [name]) := by
  rw [isDirectory] at h
  rcases hlocate : t.locate p with e | spot <;> rw [hlocate] at h
  · cases h
  · rw [locate, hsteps] at hlocate
    split at hlocate
    · cases hlocate
    · split at hlocate
      · cases hlocate
      · split at hlocate
        · cases hlocate
        · cases hroot : p.absolute with
          | true =>
            rw [hroot, if_pos rfl] at hlocate
            rw [of_walk_above_concat hname hlocate] at h
            cases h
          | false =>
            rw [hroot, if_neg (by decide)] at hlocate
            rcases of_walk_concat hname hlocate with rfl | ⟨dir, hdir, hthere, rfl⟩
            · cases h
            · exact ⟨rfl, dir, ⟨hdir, hthere⟩, hlocate, by simpa using h⟩

end FileTree

end RelayHub
