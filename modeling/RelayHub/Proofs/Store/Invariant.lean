/-
File systems whose states all satisfy something.

What a file system always keeps up may be taken for granted: it is a file system
on the states that satisfy it, and whatever happens to a store in a file happens to
it there. So what is asked of a file system is only asked of these states.
-/
import RelayHub.Proofs.Store.Durable

set_option autoImplicit false

namespace RelayHub

open RelayHub.Action

variable {φ : Type} {files : FileSystem φ} {torn : FileStep → φ → φ → Prop} {inv : φ → Prop}

namespace FileSystem

/-- A condition that nothing ends: no read, no operation, and none that is broken
off. -/
structure Preserves (files : FileSystem φ) (torn : FileStep → φ → φ → Prop) (inv : φ → Prop) :
    Prop where
  read (p : Path) {s : φ} : inv s → inv (files.read p s).2
  perform (step : FileStep) {s : φ} : inv s → inv (files.perform step s).2
  torn {step : FileStep} {s s' : φ} : torn step s s' → inv s → inv s'

/-- A file system on the states that satisfy a condition. -/
def restrict (files : FileSystem φ) (h : files.Preserves torn inv) : FileSystem { s // inv s } where
  read p s := ((files.read p s.1).1, ⟨(files.read p s.1).2, h.read p s.2⟩)
  perform step s := ((files.perform step s.1).1, ⟨(files.perform step s.1).2, h.perform step s.2⟩)

/-- What may be left of an operation that is broken off, on the same states. -/
def tornIn (torn : FileStep → φ → φ → Prop) (inv : φ → Prop) :
    FileStep → { s // inv s } → { s // inv s } → Prop :=
  fun step s s' => torn step s.1 s'.1

variable (h : files.Preserves torn inv)

theorem perform_restrict {step : FileStep} {s s' : φ} {r : Except FileError Unit} (hs : inv s)
    (hstep : files.perform step s = (r, s')) :
    ∃ hs' : inv s', (files.restrict h).perform step ⟨s, hs⟩ = (r, ⟨s', hs'⟩) := by
  have hs' := h.perform step hs
  simp only [hstep] at hs'
  refine ⟨hs', ?_⟩
  simp only [restrict, hstep]

theorem of_perform_restrict {step : FileStep} {s s' : { s // inv s }} {r : Except FileError Unit}
    (hstep : (files.restrict h).perform step s = (r, s')) : files.perform step s.1 = (r, s'.1) := by
  have hanswer := congrArg (fun u => u.1) hstep
  have hstate := congrArg (fun u => u.2.1) hstep
  exact Prod.ext hanswer hstate

theorem Leaves.of_restrict {step : FileStep} {s s' : { s // inv s }}
    (hleft : (files.restrict h).Leaves (tornIn torn inv) step s s') :
    files.Leaves torn step s.1 s'.1 := by
  rcases hleft with ⟨r, hstep⟩ | hbroken
  · exact .ended r (of_perform_restrict h hstep)
  · exact .broken hbroken

theorem Leaves.restrict {step : FileStep} {s s' : φ} (hs : inv s)
    (hleft : files.Leaves torn step s s') :
    ∃ hs' : inv s', (files.restrict h).Leaves (tornIn torn inv) step ⟨s, hs⟩ ⟨s', hs'⟩ := by
  rcases hleft with ⟨r, hstep⟩ | hbroken
  · obtain ⟨hs', hdone⟩ := perform_restrict h hs hstep
    exact ⟨hs', .ended r hdone⟩
  · exact ⟨h.torn hbroken hs, .broken hbroken⟩

theorem Interrupted.restrict {steps : List FileStep} {s s' : φ} (hs : inv s)
    (hstopped : files.Interrupted torn steps s s') :
    ∃ hs' : inv s',
      (files.restrict h).Interrupted (tornIn torn inv) steps ⟨s, hs⟩ ⟨s', hs'⟩ := by
  induction hstopped with
  | between steps s => exact ⟨hs, .between steps _⟩
  | within rest hleft =>
    obtain ⟨hs', hleft'⟩ := hleft.restrict h hs
    exact ⟨hs', .within rest hleft'⟩
  | after hstep _ ih =>
    obtain ⟨hs₁, hdone⟩ := perform_restrict h hs hstep
    obtain ⟨hs', hrest⟩ := ih hs₁
    exact ⟨hs', .after hdone hrest⟩

end FileSystem

namespace FileStore

variable (h : files.Preserves torn inv)

/-! ## Operations -/

theorem openAt_restrict (path : Path) :
    Tracks Subtype.val (fun _ => False) (openAt (files.restrict h) path) (openAt files path) := by
  intro s s' r hr
  right
  rw [openAt, perform_of] at hr ⊢
  dsimp only [FileSystem.restrict] at hr
  rcases hread : files.read path s.1 with ⟨content, s₁⟩
  simp only [hread] at hr ⊢
  rcases content with e | bytes
  · cases e <;> cases hr <;> rfl
  · dsimp only at hr ⊢
    cases hdecode : ByteMap.decode bytes <;> rw [hdecode] at hr <;> cases hr <;> rfl

theorem performAll_restrict (steps : List FileStep) :
    Tracks Subtype.val (fun _ => False) (performAll (files.restrict h) steps)
      (performAll files steps) := by
  induction steps with
  | nil => exact .ofExcept _
  | cons step steps ih =>
    intro s s' r hr
    right
    rw [performAll_cons] at hr ⊢
    rcases hstep : files.perform step s.1 with ⟨e | _, s₁⟩
    · obtain ⟨hs₁, hdone⟩ := FileSystem.perform_restrict h s.2 hstep
      rw [hdone] at hr
      cases hr
      rfl
    · obtain ⟨hs₁, hdone⟩ := FileSystem.perform_restrict h s.2 hstep
      rw [hdone] at hr
      rcases ih hr with ⟨_, hnever, -⟩ | hrest
      · exact hnever.elim
      · exact hrest

theorem save_restrict (path : Path) (entries : ByteMap) :
    Tracks Subtype.val (fun _ => False) (save (files.restrict h) path entries)
      (save files path entries) :=
  (performAll_restrict h _).mapError fun _ hnever => hnever

/-! ## Events -/

/-- The part of a state that is a store and the files it is in. -/
def filesOf {inv : φ → Prop} (u : { s // inv s } × FileStore) : φ × FileStore :=
  (u.1.1, u.2)

theorem replace_restrict (entries undone : ByteMap) :
    Tracks filesOf (fun _ => False) (replace (files.restrict h) entries undone)
      (replace files entries undone) := by
  rintro ⟨s, store⟩ ⟨s', store'⟩ r hr
  right
  rw [replace, perform_of] at hr ⊢
  dsimp only [filesOf] at hr ⊢
  rcases (save_restrict h store.path entries).outcome s with ⟨_, hnever, -⟩ | hdone
  · exact hnever.elim
  · rw [hdone]
    rcases hsave : (save (files.restrict h) store.path entries).perform s with ⟨e | _, s₁⟩
    · rw [hsave] at hr
      cases hr
      rfl
    · rw [hsave] at hr
      cases hr
      rfl

theorem Change.on_restrict (c : Change) :
    Tracks filesOf (fun _ => False) (c.on (backend (files.restrict h))) (c.on (backend files)) := by
  rintro ⟨s, store⟩ u' r hr
  cases c with
  | put key value =>
    exact replace_restrict h (store.entries.insert key value)
      ((store.entries.insert key value).restore key (store.entries.get? key)) hr
  | putAll added => exact replace_restrict h (store.entries.insertAll added) store.entries hr

/-- What happens to a store happens to it among the states that satisfy what is
kept up. -/
theorem Happens.restrict {path : Path} {e : Event} {s s' : φ} {x x' : Option FileStore}
    (hs : inv s) (hevent : Happens files torn path (s, x) e (s', x')) :
    ∃ hs' : inv s', Happens (files.restrict h) (FileSystem.tornIn torn inv) path (⟨s, hs⟩, x) e
      (⟨s', hs'⟩, x') := by
  cases hevent with
  | opened hopen =>
    rcases (openAt_restrict h path).outcome ⟨s, hs⟩ with ⟨_, hnever, -⟩ | hdone
    · exact hnever.elim
    · rw [hopen] at hdone
      rcases hrun : (openAt (files.restrict h) path).perform ⟨s, hs⟩ with ⟨r, s₁⟩
      rw [hrun] at hdone
      cases hdone
      exact ⟨s₁.2, .opened hrun⟩
  | unopened hopen =>
    rcases (openAt_restrict h path).outcome ⟨s, hs⟩ with ⟨_, hnever, -⟩ | hdone
    · exact hnever.elim
    · rw [hopen] at hdone
      rcases hrun : (openAt (files.restrict h) path).perform ⟨s, hs⟩ with ⟨r, s₁⟩
      rw [hrun] at hdone
      cases hdone
      exact ⟨s₁.2, .unopened hrun⟩
  | got hget =>
    cases hget
    exact ⟨hs, .got rfl⟩
  | asked hhas =>
    cases hhas
    exact ⟨hs, .asked rfl⟩
  | @changed _ _ store _ c r hchange =>
    rcases (Change.on_restrict h c).outcome (⟨s, hs⟩, store) with ⟨_, hnever, -⟩ | hdone
    · exact hnever.elim
    · change (c.on (backend files)).perform (s, store) = _ at hdone
      rw [hchange] at hdone
      rcases hrun : (c.on (backend (files.restrict h))).perform (⟨s, hs⟩, store) with
        ⟨r, s₁, store₁⟩
      rw [hrun] at hdone
      cases hdone
      exact ⟨s₁.2, .changed hrun⟩
  | stopped hstop =>
    obtain ⟨hs', hstopped⟩ := hstop.restrict h hs
    exact ⟨hs', .stopped hstopped⟩

end FileStore

end RelayHub
