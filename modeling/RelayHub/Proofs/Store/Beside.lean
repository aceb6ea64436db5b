/-
Stores in files of different directories.

In trees that keep a directory, a file in it can be replaced safely, and replacing
it touches nothing but that file and the temporary file beside it. So what happens
to a store leaves the files of all other directories alone.
-/
import RelayHub.Proofs.Files.Directory
import RelayHub.Proofs.Store.Invariant

set_option autoImplicit false

namespace RelayHub

open FileSystem (tornIn)
open RelayHub.Action

namespace FileTree

variable {t t' : FileTree} {steps dir place : List String} {name other : String}
  {path temporary : Path}

/-! ## What operations leave alone -/

/-- An operation on a file in place leaves everything else. -/
theorem Leads.node?_of_target (h : t.Leads steps dir) (htemporary : temporary.In steps other)
    {step : FileStep} (htarget : step.target? = some temporary) (hplace : place ≠ dir ++ [other])
    (hleft : system.Leaves Torn step t t') : t'.node? place = t.node? place := by
  have hset (n : FileNode) : (t.set (dir ++ [other]) n).node? place = t.node? place := by
    rw [node?_set t (by simp), if_neg hplace]
  cases step with
  | create path =>
    obtain rfl := Option.some.inj htarget
    have hcreated {r : Except FileError Unit} (hr : system.perform (.create path) t = (r, t')) :
        t'.node? place = t.node? place := by
      rcases of_perform (t.createFile path) rfl hr with ⟨-, hdone⟩ | ⟨_, -, rfl⟩
      · obtain ⟨made, hlocate, -, rfl⟩ := of_createFile hdone
        cases h.of_locate htemporary hlocate
        exact hset _
      · rfl
    rcases hleft with ⟨r, hr⟩ | (rfl | hr)
    · exact hcreated hr
    · rfl
    · exact hcreated hr
  | append path bytes =>
    obtain rfl := Option.some.inj htarget
    have happended {bytes : Bytes} (hdone : t.appendFile path bytes = .ok t') :
        t'.node? place = t.node? place := by
      obtain ⟨made, content, hlocate, -, rfl⟩ := of_appendFile hdone
      cases h.of_locate htemporary hlocate
      exact hset _
    rcases hleft with ⟨r, hr⟩ | ⟨n, hn⟩
    · rcases of_perform (t.appendFile path bytes) rfl hr with ⟨-, hdone⟩ | ⟨_, -, rfl⟩
      · exact happended hdone
      · rfl
    · exact happended hn
  | sync path =>
    rcases hleft with ⟨r, hr⟩ | (rfl | hr)
    · cases hr
      rfl
    · rfl
    · cases hr
      rfl
  | makeDirectories path => cases htarget
  | rename source target => cases htarget

/-- A move of one file in a directory over another leaves everything else. -/
theorem Leads.node?_of_move (h : t.Leads steps dir) (htemporary : temporary.In steps other)
    (hpath : path.In steps name) (hplace : place ≠ dir ++ [name])
    (hbelow : ¬ dir ++ [other] <+: place)
    (hleft : system.Leaves Torn (.rename temporary path) t t') :
    t'.node? place = t.node? place := by
  have hmoved {r : Except FileError Unit}
      (hr : system.perform (.rename temporary path) t = (r, t')) :
      t'.node? place = t.node? place := by
    rcases of_perform (t.rename temporary path) rfl hr with ⟨-, hdone⟩ | ⟨_, -, rfl⟩
    · obtain ⟨old, new, content, hold, hnew, -, -, rfl⟩ := of_rename hdone
      cases h.of_locate htemporary hold
      cases h.of_locate hpath hnew
      split
      · rfl
      · rw [node?_set _ (by simp), if_neg hplace]
        by_cases htop : place = []
        · rw [htop]
          rfl
        · rw [node?_erase t _ htop, if_neg hbelow]
    · rfl
  rcases hleft with ⟨r, hr⟩ | (rfl | hr)
  · exact hmoved hr
  · rfl
  · exact hmoved hr

/-- A move over a file makes no directory of it. -/
theorem Leads.directory_of_move (h : t.Leads steps dir) (htemporary : temporary.In steps other)
    (hpath : path.In steps name) (hne : other ≠ name)
    (hleft : system.Leaves Torn (.rename temporary path) t t') :
    (t'.node? (dir ++ [name]) = some .directory) = (t.node? (dir ++ [name]) = some .directory) := by
  have hmoved {r : Except FileError Unit}
      (hr : system.perform (.rename temporary path) t = (r, t')) :
      (t'.node? (dir ++ [name]) = some .directory)
        = (t.node? (dir ++ [name]) = some .directory) := by
    rcases of_perform (t.rename temporary path) rfl hr with ⟨-, hdone⟩ | ⟨_, -, rfl⟩
    · obtain ⟨old, new, content, hold, hnew, -, hfile, rfl⟩ := of_rename hdone
      cases h.of_locate htemporary hold
      cases h.of_locate hpath hnew
      rw [if_neg (by simpa using hne), node?_set _ (by simp), if_pos rfl]
      simp [hfile]
    · rfl
  rcases hleft with ⟨r, hr⟩ | (rfl | hr)
  · exact hmoved hr
  · rfl
  · exact hmoved hr

/-- Making a directory that is there leaves everything. -/
theorem Leads.eq_of_makeDirectories (h : t.Leads steps dir) {directory : Path}
    (habsolute : directory.absolute = false) (hsteps : directory.steps = steps)
    (hleft : system.Leaves Torn (.makeDirectories directory) t t') : t' = t := by
  have hmade {r : Except FileError Unit}
      (hr : system.perform (.makeDirectories directory) t = (r, t')) : t' = t := by
    have hself := h.makeDirectories_self habsolute hsteps directory.steps.length
    rw [show makeDirectories directory.steps.length directory t = (r, t') from hr] at hself
    exact hself
  rcases hleft with ⟨r, hr⟩ | (rfl | hr)
  · exact hmade hr
  · rfl
  · exact hmade hr

theorem parent_of_in (hpath : path.In steps name) {directory : Path}
    (h : path.parent? = some directory) : directory.absolute = false ∧ directory.steps = steps := by
  rw [Path.parent?, hpath.steps] at h
  split at h
  · cases h
  · cases h
    exact ⟨hpath.relative, List.dropLast_concat⟩

/-! ## Files in one directory -/

/-- A condition that only asks for directories is kept up by all that can be done to
a tree. -/
theorem preserves_of_keeps {inv : FileTree → Prop}
    (h : ∀ t t' : FileTree, t.Keeps t' → inv t → inv t') : system.Preserves Torn inv where
  read _ _ ht := ht
  perform _ t ht := h t _ (keeps_of_perform rfl) ht
  torn htorn ht := h _ _ (keeps_of_torn htorn) ht

section Orderly

variable {inv : FileTree → Prop} (hkept : system.Preserves Torn inv)
  (hinv : ∀ t, inv t → t.Leads steps dir)
include hinv

/-- A file that is moved over another is there instead of it. -/
theorem held_of_move (hpath : path.In steps name) (htemporary : temporary.In steps other)
    (hne : other ≠ name) (ht : inv t) (ht' : inv t') (h : t.rename temporary path = .ok t') :
    t'.held path = t.held temporary := by
  obtain ⟨old, new, content, hold, hnew, hfile, -, hset⟩ := of_rename h
  cases (hinv t ht).of_locate htemporary hold
  cases (hinv t ht).of_locate hpath hnew
  rw [if_neg (by simpa using hne)] at hset
  have hheld : t.held temporary = some content := held_of_node? htemporary hold hfile
  rw [hheld]
  apply (hinv t ht).held_of_node? (hinv t' ht') hpath hnew
  rw [hset, node?_set _ (by simp), if_pos rfl]

/-- Trees that keep a directory are safe to replace a file in it in. -/
theorem orderly_in (hpath : path.In steps name) (htemporary : temporary.In steps other)
    (hne : other ≠ name) :
    (system.restrict hkept).Orderly (tornIn Torn inv) (fun s p => s.1.held p) path temporary where
  found {s bytes} h := by
    change s.1.read _ = _ at h
    rw [held, h]
    rfl
  missing {s} h := by
    change s.1.read _ = _ at h
    rw [held, h]
    rfl
  looked s := rfl
  directories {directory s s'} hdirectory hleft := by
    obtain ⟨habsolute, hsteps⟩ := parent_of_in hpath hdirectory
    rw [(hinv _ s.2).eq_of_makeDirectories habsolute hsteps (hleft.of_restrict hkept)]
  beside {step s s'} htarget _ hleft := by
    apply (hinv _ s.2).held_eq (hinv _ s'.2) hpath
    apply (hinv _ s.2).node?_of_target htemporary htarget _ (hleft.of_restrict hkept)
    simpa using hne.symm
  created {s s'} h := by
    have hr := FileSystem.of_perform_restrict hkept h
    rcases of_perform (s.1.createFile temporary) rfl hr with ⟨-, hdone⟩ | ⟨_, he, -⟩
    · obtain ⟨made, hlocate, -, hset⟩ := of_createFile hdone
      cases (hinv _ s.2).of_locate htemporary hlocate
      apply (hinv _ s.2).held_of_node? (hinv _ s'.2) htemporary hlocate
      rw [hset, node?_set _ (by simp), if_pos rfl]
    · cases he
  appended {bytes s s'} h := by
    have hr := FileSystem.of_perform_restrict hkept h
    rcases of_perform (s.1.appendFile temporary bytes) rfl hr with ⟨-, hdone⟩ | ⟨_, he, -⟩
    · obtain ⟨made, content, hlocate, hfile, hset⟩ := of_appendFile hdone
      cases (hinv _ s.2).of_locate htemporary hlocate
      have hold : s.1.held temporary = some content := held_of_node? htemporary hlocate hfile
      have hnew : s'.1.held temporary = some (content ++ bytes) := by
        apply (hinv _ s.2).held_of_node? (hinv _ s'.2) htemporary hlocate
        rw [hset, node?_set _ (by simp), if_pos rfl]
      rw [hold, hnew]
      rfl
    · cases he
  synced h := by
    cases h
    rfl
  moved {s s'} h := by
    have hr := FileSystem.of_perform_restrict hkept h
    rcases of_perform (s.1.rename temporary path) rfl hr with ⟨-, hdone⟩ | ⟨_, he, -⟩
    · exact held_of_move hinv hpath htemporary hne s.2 s'.2 hdone
    · cases he
  unmoved {e s s'} h := by
    have hr := FileSystem.of_perform_restrict hkept h
    rcases of_perform (s.1.rename temporary path) rfl hr with ⟨he, -⟩ | ⟨_, -, hsame⟩
    · cases he
    · rw [hsame]
  atomic {s s'} h := by
    rcases h with hsame | hr
    · left
      rw [hsame]
    · right
      rcases of_perform (s.1.rename temporary path) rfl hr with ⟨-, hdone⟩ | ⟨_, he, -⟩
      · exact held_of_move hinv hpath htemporary hne s.2 s'.2 hdone
      · cases he

end Orderly

end FileTree

/-! ## Files in other directories -/

namespace FileStore

/-- Opening a store in a tree leaves the tree as it is. -/
theorem openAt_system {path : Path} {t t' : FileTree} {r : Except BackendError FileStore}
    (h : (openAt FileTree.system path).perform t = (r, t')) : t' = t := by
  rw [openAt, perform_of] at h
  dsimp only [FileTree.system] at h
  rcases hread : t.read path with e | bytes <;> simp only [hread] at h
  · cases e <;> cases h <;> rfl
  · cases hdecode : ByteMap.decode bytes <;> rw [hdecode] at h <;> cases h <;> rfl

/-- A store that is opened has what its file holds, or nothing if there is no file. -/
theorem of_openAt_system {path : Path} {t t' : FileTree} {store : FileStore}
    (h : (openAt FileTree.system path).perform t = (.ok store, t')) :
    store.path = path ∧ Holds (t.held path) store.entries ∧
      ∀ e, t.read path = .error e → e = .notFound := by
  rw [openAt, perform_of] at h
  dsimp only [FileTree.system] at h
  rw [FileTree.held]
  rcases hread : t.read path with e | bytes <;> simp only [hread] at h
  · cases e with
    | notFound =>
      cases h
      refine ⟨rfl, rfl, ?_⟩
      intro e he
      exact (Except.error.inj he).symm
    | _ => cases h
  · cases hdecode : ByteMap.decode bytes with
    | error e =>
      rw [hdecode] at h
      cases h
    | ok entries =>
      rw [hdecode] at h
      cases h
      refine ⟨rfl, hdecode, ?_⟩
      intro e he
      cases he

/-- A store that is open in a file stays the store of that file. -/
theorem path_of_happens {path : Path} {t t' : FileTree} {x x' : Option FileStore} {e : Event}
    (hx : ∀ store, x = some store → store.path = path)
    (h : Happens FileTree.system FileTree.Torn path (t, x) e (t', x')) :
    ∀ store, x' = some store → store.path = path := by
  intro store hstore
  cases h with
  | opened h =>
    cases hstore
    exact (of_openAt_system h).1
  | unopened => exact hx store hstore
  | got h =>
    cases h
    exact hx store hstore
  | asked h =>
    cases h
    exact hx store hstore
  | changed h =>
    cases hstore
    have hold := hx _ rfl
    obtain ⟨-, ⟨_, -, rfl⟩ | ⟨-, rfl⟩⟩ := Change.on_perform h
    · exact hold
    · exact hold
  | stopped => cases hstore

/-- A save that ends leaves behind what one may that is stopped. -/
theorem interrupted_of_save {φ : Type} {files : FileSystem φ}
    (torn : FileStep → φ → φ → Prop) {path : Path} {entries : ByteMap} {s s' : φ}
    {r : Except BackendError Unit} (h : (save files path entries).perform s = (r, s')) :
    files.Interrupted torn (saveSteps path entries) s s' := by
  rcases hall : (performAll files (saveSteps path entries)).perform s with ⟨_ | _, s₁⟩
  · rw [save, perform_mapError_error hall] at h
    cases h
    exact interrupted_of_performAll torn hall
  · rw [save, perform_mapError_ok hall] at h
    cases h
    exact interrupted_of_performAll torn hall

section Views

variable {inv : FileTree → Prop} {steps dir : List String} {name other : String} {path : Path}
  (hkept : FileTree.system.Preserves FileTree.Torn inv)
  (hinv : ∀ t, inv t → t.Leads steps dir)
  (hpath : path.In steps name)

section View

variable {γ : Type} {view : FileTree → γ}
  (htarget : ∀ t t' step, inv t → FileStep.target? step = some (path.withExtension "tmp") →
    FileTree.system.Leaves FileTree.Torn step t t' → view t' = view t)
  (hmove : ∀ t t', inv t →
    FileTree.system.Leaves FileTree.Torn (.rename (path.withExtension "tmp") path) t t' →
    view t' = view t)
include hinv hpath htarget hmove

/-- What preparing the temporary file and moving it leave alone, so does a save that
is stopped anywhere. -/
theorem view_of_stopped {entries : ByteMap} {s s' : { t // inv t }}
    (h : (FileTree.system.restrict hkept).Interrupted (tornIn FileTree.Torn inv)
      (saveSteps path entries) s s') :
    view s'.1 = view s.1 := by
  have hsteps : ∀ step ∈ saveSteps path entries, ∀ s s' : { t // inv t },
      (FileTree.system.restrict hkept).Leaves (tornIn FileTree.Torn inv) step s s' →
      view s'.1 = view s.1 := by
    intro step hstep s s' hleft
    have hleft := hleft.of_restrict hkept
    rw [saveSteps_eq] at hstep
    simp only [preparation, List.mem_append, List.mem_map, Option.mem_toList, List.mem_cons,
      List.not_mem_nil, or_false] at hstep
    rcases hstep with (⟨directory, hdirectory, rfl⟩ | rfl | rfl | rfl) | rfl
    · -- The directory of the file is there already, so none is made.
      obtain ⟨habsolute, hsteps⟩ := FileTree.parent_of_in hpath hdirectory
      rw [(hinv s.1 s.2).eq_of_makeDirectories habsolute hsteps hleft]
    · exact htarget _ _ _ s.2 rfl hleft
    · exact htarget _ _ _ s.2 rfl hleft
    · exact htarget _ _ _ s.2 rfl hleft
    · exact hmove _ _ s.2 hleft
  have hkeeps := interrupted_keeps hsteps h
  exact hkeeps

/-- So does all that happens to a store. -/
theorem view_of_happens {e : Event} {s s' : { t // inv t }} {x x' : Option FileStore}
    (hx : ∀ store, x = some store → store.path = path)
    (h : Happens (FileTree.system.restrict hkept) (tornIn FileTree.Torn inv) path (s, x) e
      (s', x')) :
    view s'.1 = view s.1 := by
  have hopen {r : Except BackendError FileStore}
      (h : (openAt (FileTree.system.restrict hkept) path).perform s = (r, s')) :
      view s'.1 = view s.1 := by
    rcases (openAt_restrict hkept path).outcome s with ⟨_, hnever, -⟩ | hdone
    · exact hnever.elim
    · rw [h] at hdone
      rw [openAt_system hdone]
  cases h with
  | opened h => exact hopen h
  | unopened h => exact hopen h
  | got h =>
    cases h
    rfl
  | asked h =>
    cases h
    rfl
  | changed h =>
    obtain ⟨hsave, -⟩ := Change.on_perform h
    rw [hx _ rfl] at hsave
    have hstopped := interrupted_of_save (tornIn FileTree.Torn inv) hsave
    exact view_of_stopped hkept hinv hpath htarget hmove hstopped
  | stopped h =>
    rw [hx _ rfl] at h
    exact view_of_stopped hkept hinv hpath htarget hmove h

end View

variable (htemporary : (path.withExtension "tmp").In steps other)
  {e : Event} {s s' : { t // inv t }} {x x' : Option FileStore}
  (hx : ∀ store, x = some store → store.path = path)
  (h : Happens (FileTree.system.restrict hkept) (tornIn FileTree.Torn inv) path (s, x) e (s', x'))
include hinv hpath htemporary hx h

/-- What happens to a store leaves everything that is in another directory. -/
theorem node?_of_happens {place : List String} (hplace : ¬ dir <+: place) :
    s'.1.node? place = s.1.node? place := by
  have hne (last : String) : place ≠ dir ++ [last] := by
    rintro rfl
    exact hplace (List.prefix_append dir [last])
  have hbelow : ¬ dir ++ [other] <+: place := by
    intro h
    exact hplace ((List.prefix_append dir [other]).trans h)
  have htarget : ∀ t t' step, inv t → FileStep.target? step = some (path.withExtension "tmp") →
      FileTree.system.Leaves FileTree.Torn step t t' → t'.node? place = t.node? place := by
    intro t t' step ht htarget hleft
    exact (hinv t ht).node?_of_target htemporary htarget (hne other) hleft
  have hmove : ∀ t t', inv t →
      FileTree.system.Leaves FileTree.Torn (.rename (path.withExtension "tmp") path) t t' →
      t'.node? place = t.node? place := by
    intro t t' ht hleft
    exact (hinv t ht).node?_of_move htemporary hpath (hne name) hbelow hleft
  exact view_of_happens hkept hinv hpath htarget hmove hx h

/-- What happens to a store makes no directory of its file. -/
theorem directory_of_happens (hne : other ≠ name) :
    (s'.1.node? (dir ++ [name]) = some .directory)
      = (s.1.node? (dir ++ [name]) = some .directory) := by
  have htarget : ∀ t t' step, inv t → FileStep.target? step = some (path.withExtension "tmp") →
      FileTree.system.Leaves FileTree.Torn step t t' →
      (t'.node? (dir ++ [name]) = some .directory)
        = (t.node? (dir ++ [name]) = some .directory) := by
    intro t t' step ht htarget hleft
    rw [(hinv t ht).node?_of_target htemporary htarget (by simpa using hne.symm) hleft]
  have hmove : ∀ t t', inv t →
      FileTree.system.Leaves FileTree.Torn (.rename (path.withExtension "tmp") path) t t' →
      (t'.node? (dir ++ [name]) = some .directory)
        = (t.node? (dir ++ [name]) = some .directory) := by
    intro t t' ht hleft
    exact (hinv t ht).directory_of_move htemporary hpath hne hleft
  exact view_of_happens hkept hinv hpath htarget hmove hx h

end Views

/-- Where the file of a store is, or may be, the store can be opened. -/
theorem openAt_of_holds {path : Path} {steps dir : List String} {name : String} {t : FileTree}
    {m : ByteMap} (hpath : path.In steps name)
    (hlocate : t.locate path = .ok (.inside (dir ++ [name])))
    (hfile : t.node? (dir ++ [name]) ≠ some .directory) (hholds : Holds (t.held path) m) :
    (openAt FileTree.system path).perform t = (.ok ⟨path, m⟩, t) := by
  rw [openAt, perform_of]
  dsimp only [FileTree.system]
  rw [FileTree.held] at hholds
  rcases hread : t.read path with e | bytes
  · have hmissing := FileTree.eq_notFound_of_read hpath hlocate hfile hread
    rw [hread] at hholds
    obtain rfl : m = .empty := hholds
    rw [hmissing]
  · rw [hread] at hholds
    have hdecode : ByteMap.decode bytes = .ok m := hholds
    dsimp only
    rw [hdecode]

end FileStore

end RelayHub
