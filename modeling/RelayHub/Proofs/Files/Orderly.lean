/-
What is asked of a file system while a file is replaced.

Nobody else writes the file or the temporary file beside it. An operation that
is carried out does what it says; one that fails or is broken off touches the
temporary file at most, and the move is made whole or not at all. Reads may
fail, but do not lie. A tree is such a file system for the files of its working
directory, also if only a part of the bytes gets into a file.
-/
import RelayHub.Files.Tree
import RelayHub.Proofs.Files.Path

set_option autoImplicit false

namespace RelayHub

variable {φ : Type}

/-! ## Operations that end anyhow -/

/-- The file that an operation writes in place. -/
def FileStep.target? : FileStep → Option Path
  | .create path => some path
  | .append path _ => some path
  | .sync path => some path
  | .makeDirectories _ => none
  | .rename _ _ => none

/-- What an operation may leave behind: it is carried out or fails, or it is
broken off. What may be left of one that is broken off is given by `torn`. -/
inductive FileSystem.Leaves (files : FileSystem φ) (torn : FileStep → φ → φ → Prop)
    (step : FileStep) (s : φ) : φ → Prop where
  | ended {s' : φ} (r : Except FileError Unit) (h : files.perform step s = (r, s')) :
      Leaves files torn step s s'
  | broken {s' : φ} (h : torn step s s') : Leaves files torn step s s'

/-- A file system that is safe to replace the file at a path in, by way of a
temporary file. What a file holds is given by `content`. -/
structure FileSystem.Orderly (files : FileSystem φ) (torn : FileStep → φ → φ → Prop)
    (content : φ → Path → Option Bytes) (path temporary : Path) : Prop where
  /-- Bytes that are read are those of the file. -/
  found {s : φ} {bytes : Bytes} : (files.read path s).1 = .ok bytes → content s path = some bytes
  /-- A file that is said to be missing is missing; any other error says nothing. -/
  missing {s : φ} : (files.read path s).1 = .error .notFound → content s path = none
  /-- Reading changes nothing. -/
  looked (s : φ) : content (files.read path s).2 path = content s path
  /-- Nor does making the directories that the file lies in. -/
  directories {directory : Path} {s s' : φ} : path.parent? = some directory →
    files.Leaves torn (.makeDirectories directory) s s' → content s' path = content s path
  /-- What is done to the temporary file, with success or not, is done to it alone. -/
  beside {step : FileStep} {s s' : φ} : step.target? = some temporary → temporary.Apart path →
    files.Leaves torn step s s' → content s' path = content s path
  created {s s' : φ} : files.perform (.create temporary) s = (.ok (), s') →
    content s' temporary = some []
  appended {bytes : Bytes} {s s' : φ} : files.perform (.append temporary bytes) s = (.ok (), s') →
    content s' temporary = (content s temporary).map (· ++ bytes)
  synced {s s' : φ} : files.perform (.sync temporary) s = (.ok (), s') →
    content s' temporary = content s temporary
  /-- A move is made, or not made, or broken off before or after. -/
  moved {s s' : φ} : files.perform (.rename temporary path) s = (.ok (), s') →
    content s' path = content s temporary
  unmoved {e : FileError} {s s' : φ} : files.perform (.rename temporary path) s = (.error e, s') →
    content s' path = content s path
  atomic {s s' : φ} : torn (.rename temporary path) s s' →
    content s' path = content s path ∨ content s' path = content s temporary

/-! ## Trees -/

namespace FileTree

/-- What is left in a tree of an operation that is broken off: nothing, or all
of it, or of an addition to a file the first bytes. -/
def Torn : FileStep → FileTree → FileTree → Prop
  | .append path bytes, t, t' => ∃ n, t.appendFile path (bytes.take n) = .ok t'
  | step, t, t' => t' = t ∨ system.perform step t = (.ok (), t')

/-- What the file at a path holds. -/
def held (t : FileTree) (p : Path) : Option Bytes :=
  (t.read p).toOption

theorem lookup_map_replace {steps other : List String} (n : FileNode)
    (entries : List (List String × FileNode)) :
    (entries.map fun e => if e.1 = steps then (steps, n) else e).lookup other
      = if other = steps then (entries.lookup steps).map fun _ => n else entries.lookup other := by
  induction entries with
  | nil => simp
  | cons e rest ih =>
    obtain ⟨place, node⟩ := e
    by_cases hplace : place = steps
    · subst hplace
      by_cases hother : other = place
      · simp [hother]
      · have hb : (other == place) = false := beq_eq_false_iff_ne.2 hother
        simp [List.lookup_cons, hb, ih, hother]
    · by_cases hsame : other = place
      · subst hsame
        simp [hplace]
      · have hb : (other == place) = false := beq_eq_false_iff_ne.2 hsame
        have hb' : (steps == place) = false := beq_eq_false_iff_ne.2 fun h => hplace h.symm
        simp [List.lookup_cons, hplace, hb, hb', ih]

theorem lookup_singleton (steps other : List String) (n : FileNode) :
    [(steps, n)].lookup other = if other = steps then some n else none := by
  by_cases h : other = steps
  · simp [h]
  · have hb : (other == steps) = false := beq_eq_false_iff_ne.2 h
    simp [List.lookup_cons, hb, h]

/-- What is put at a place is there, and other places have what they had. -/
theorem node?_set (t : FileTree) {steps : List String} (hsteps : steps ≠ []) (n : FileNode)
    (other : List String) :
    (t.set steps n).node? other = if other = steps then some n else t.node? other := by
  have hempty : steps.isEmpty = false := by simpa using hsteps
  unfold node? set
  by_cases hother : other = steps
  · subst hother
    rw [hempty, if_neg (by decide), if_pos rfl]
    split
    · rename_i hsome
      obtain ⟨old, hold⟩ := Option.isSome_iff_exists.1 hsome
      simp [lookup_map_replace, hold]
    · rename_i hnone
      rw [Option.not_isSome_iff_eq_none] at hnone
      simp [List.lookup_append, hnone]
  · rw [if_neg hother]
    split
    · rfl
    · split
      · simp [lookup_map_replace, hother]
      · simp [List.lookup_append, lookup_singleton, hother]

/-! ### Files of the working directory -/

/-- A name that a file can have. -/
structure IsName (name : String) : Prop where
  text : name.isEmpty = false
  whole : name.toList.any (· = Char.ofNat 0) = false
  short : (Utf8.encode name).length ≤ 255
  here : name ≠ ".."

section Here

variable {name : String} (hname : IsName name) (t : FileTree)
include hname

/-- A name leads to its place. -/
theorem locate_here : t.locate (.ofSteps false [name]) = .ok (.inside [name]) := by
  have htext : (Path.ofSteps false [name]).text = name := by
    change "" ++ name = name
    exact String.empty_append
  have hlong : ¬ 4096 ≤ (Utf8.encode name).length := by
    have := hname.short
    omega
  have hfits : ¬ 255 < (Utf8.encode name).length := Nat.not_lt.2 hname.short
  rw [locate, htext, hname.whole, hname.text, if_neg (by decide), if_neg (by decide), if_neg hlong]
  simp [Path.ofSteps, walk, node?, hfits, hname.here]

theorem read_here : t.read (.ofSteps false [name]) =
    match t.node? [name] with
    | none => .error .notFound
    | some .directory => .error .isDirectory
    | some (.file content) => .ok content := by
  rw [read, locate_here hname]
  rfl

theorem held_here : t.held (.ofSteps false [name]) =
    match t.node? [name] with
    | some (.file content) => some content
    | _ => none := by
  rw [held, read_here hname]
  rcases t.node? [name] with _ | ⟨content⟩ | _ <;> rfl

theorem createFile_here : t.createFile (.ofSteps false [name]) =
    if t.node? [name] = some .directory then .error .isDirectory
    else .ok (t.set [name] (.file [])) := by
  rw [createFile, locate_here hname]
  simp only [bind, Except.bind]
  rcases t.node? [name] with _ | ⟨content⟩ | _ <;> rfl

theorem appendFile_here (bytes : Bytes) : t.appendFile (.ofSteps false [name]) bytes =
    match t.node? [name] with
    | none => .error .notFound
    | some .directory => .error .isDirectory
    | some (.file content) => .ok (t.set [name] (.file (content ++ bytes))) := by
  rw [appendFile, read_here hname, locate_here hname]
  rcases t.node? [name] with _ | ⟨content⟩ | _ <;> rfl

theorem rename_here {target : String} (htarget : IsName target) (hne : name ≠ target) :
    t.rename (.ofSteps false [name]) (.ofSteps false [target]) =
    match t.node? [name] with
    | none => .error .notFound
    | some .directory => .error .isDirectory
    | some (.file content) =>
      if t.node? [target] = some .directory then .error .isDirectory
      else .ok ((t.erase [name]).set [target] (.file content)) := by
  rw [rename, read_here hname, locate_here hname, locate_here htarget]
  rcases t.node? [name] with _ | ⟨content⟩ | _
  · rfl
  · simp only [bind, Except.bind]
    rcases t.node? [target] with _ | ⟨old⟩ | _ <;> simp [Path.ofSteps, hne] <;> rfl
  · rfl

end Here

/-- A file of the working directory keeps what it holds when something is put at
another place there. -/
theorem held_set_here {name other : String} (hname : IsName name) (hne : other ≠ name)
    (t : FileTree) (n : FileNode) :
    (t.set [other] n).held (.ofSteps false [name]) = t.held (.ofSteps false [name]) := by
  rw [held_here hname, held_here hname, node?_set t (by simp)]
  simp [hne.symm]

theorem held_set_same {name : String} (hname : IsName name) (t : FileTree) (content : Bytes) :
    (t.set [name] (.file content)).held (.ofSteps false [name]) = some content := by
  rw [held_here hname, node?_set t (by simp), if_pos rfl]

/-- An operation changes a tree as a whole, or fails and changes nothing. -/
theorem of_perform {t t' : FileTree} {step : FileStep} (change : Except FileError FileTree)
    {r : Except FileError Unit} (hstep : system.perform step t = match change with
      | .ok t => (.ok (), t)
      | .error e => (.error e, t)) (h : system.perform step t = (r, t')) :
    (r = .ok () ∧ change = .ok t') ∨ ∃ e, r = .error e ∧ t' = t := by
  rw [hstep] at h
  cases change with
  | ok t => cases h; exact .inl ⟨rfl, rfl⟩
  | error e => cases h; exact .inr ⟨e, rfl, rfl⟩

theorem of_createFile_here {name : String} (hname : IsName name) {t t' : FileTree}
    (h : t.createFile (.ofSteps false [name]) = .ok t') : t' = t.set [name] (.file []) := by
  rw [createFile_here hname] at h
  split at h <;> cases h
  rfl

theorem of_appendFile_here {name : String} (hname : IsName name) {t t' : FileTree} {bytes : Bytes}
    (h : t.appendFile (.ofSteps false [name]) bytes = .ok t') :
    ∃ content, t.held (.ofSteps false [name]) = some content ∧
      t' = t.set [name] (.file (content ++ bytes)) := by
  rw [appendFile_here hname] at h
  rw [held_here hname]
  split at h <;> cases h
  rename_i content hcontent
  exact ⟨content, by rw [hcontent], rfl⟩

theorem of_rename_here {name target : String} (hname : IsName name) (htarget : IsName target)
    (hne : name ≠ target) {t t' : FileTree}
    (h : t.rename (.ofSteps false [name]) (.ofSteps false [target]) = .ok t') :
    t'.held (.ofSteps false [target]) = t.held (.ofSteps false [name]) := by
  rw [rename_here hname t htarget hne] at h
  rw [held_here hname t]
  split at h
  · cases h
  · cases h
  · rename_i content hcontent
    rw [hcontent]
    split at h <;> cases h
    exact held_set_same htarget _ _

/-- An operation on one file of the working directory leaves the others. -/
theorem held_of_leaves {name other : String} (hname : IsName name) (hother : IsName other)
    (hne : other ≠ name) {step : FileStep} {t t' : FileTree}
    (htarget : step.target? = some (.ofSteps false [other])) (h : system.Leaves Torn step t t') :
    t'.held (.ofSteps false [name]) = t.held (.ofSteps false [name]) := by
  cases step with
  | create path =>
    obtain rfl := Option.some.inj htarget
    have hperform : ∀ {r}, system.perform (.create (.ofSteps false [other])) t = (r, t') →
        t'.held (.ofSteps false [name]) = t.held (.ofSteps false [name]) := by
      intro r hr
      rcases of_perform (t.createFile _) rfl hr with ⟨-, hcreated⟩ | ⟨e, -, rfl⟩
      · rw [of_createFile_here hother hcreated, held_set_here hname hne]
      · rfl
    rcases h with ⟨r, hr⟩ | (rfl | hr)
    · exact hperform hr
    · rfl
    · exact hperform hr
  | append path bytes =>
    obtain rfl := Option.some.inj htarget
    -- The same for all of the bytes and for the first of them.
    have happended : ∀ {bytes}, t.appendFile (.ofSteps false [other]) bytes = .ok t' →
        t'.held (.ofSteps false [name]) = t.held (.ofSteps false [name]) := by
      intro bytes hfile
      obtain ⟨content, -, rfl⟩ := of_appendFile_here hother hfile
      exact held_set_here hname hne t _
    rcases h with ⟨r, hr⟩ | ⟨n, hn⟩
    · rcases of_perform (t.appendFile _ _) rfl hr with ⟨-, hfile⟩ | ⟨e, -, rfl⟩
      · exact happended hfile
      · rfl
    · exact happended hn
  | sync path =>
    rcases h with ⟨r, hr⟩ | (rfl | hr)
    · cases hr
      rfl
    · rfl
    · cases hr
      rfl
  | makeDirectories path => cases htarget
  | rename source target => cases htarget

/-- A tree is safe to replace a file of the working directory in. -/
theorem orderly_here {name temporary : String} (hname : IsName name)
    (htemporary : IsName temporary) (hne : temporary ≠ name) :
    system.Orderly Torn held (.ofSteps false [name]) (.ofSteps false [temporary]) where
  found {t bytes} h := by
    change t.read _ = _ at h
    rw [held, h]
    rfl
  missing {t} h := by
    change t.read _ = _ at h
    rw [held, h]
    rfl
  looked t := rfl
  directories {directory t t'} hdirectory h := by
    -- A file of the working directory lies in no other directory.
    obtain rfl := Option.some.inj hdirectory
    rcases h with ⟨r, hr⟩ | (rfl | hr)
    · cases hr
      rfl
    · rfl
    · cases hr
      rfl
  beside htarget _ h := held_of_leaves hname htemporary hne htarget h
  created {t t'} h := by
    rcases of_perform (t.createFile _) rfl h with ⟨-, hcreated⟩ | ⟨_, he, -⟩
    · rw [of_createFile_here htemporary hcreated, held_set_same htemporary]
    · cases he
  appended {bytes t t'} h := by
    rcases of_perform (t.appendFile _ _) rfl h with ⟨-, hfile⟩ | ⟨_, he, -⟩
    · obtain ⟨content, hcontent, rfl⟩ := of_appendFile_here htemporary hfile
      rw [hcontent, held_set_same htemporary]
      rfl
    · cases he
  synced h := by
    cases h
    rfl
  moved {t t'} h := by
    rcases of_perform (t.rename _ _) rfl h with ⟨-, hfile⟩ | ⟨_, he, -⟩
    · exact of_rename_here htemporary hname hne hfile
    · cases he
  unmoved {e t t'} h := by
    rcases of_perform (t.rename _ _) rfl h with ⟨he, -⟩ | ⟨_, -, rfl⟩
    · cases he
    · rfl
  atomic {t t'} h := by
    rcases h with rfl | h
    · exact .inl rfl
    · rcases of_perform (t.rename _ _) rfl h with ⟨-, hfile⟩ | ⟨_, he, -⟩
      · exact .inr (of_rename_here htemporary hname hne hfile)
      · cases he

end FileTree

end RelayHub
