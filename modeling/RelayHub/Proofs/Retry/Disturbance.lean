/-
Runs in which operations fail now and then.

A script that heeds its answers goes on with those that landed and tries again
after the others, so a run that is over has waited once for each try that did
not land, and a journal that ends the script is that of a run with enough
patience. There is such a run just if the world never keeps the script trying one
operation for ever. Two worlds are compared by their journals: where one disturbs the
other, it does what the other does, but for failures in between that change
nothing the other one sees. Leaving these out of a journal of the one gives a
journal of the other, and the failures that are left can be put into a journal
of the other until they are used up.
-/
import RelayHub.Proofs.Retry.Journal

set_option autoImplicit false

namespace RelayHub

variable {Op : Type} {Answer : Op → Type} {σ τ : Type} {α β : Type}

namespace Script

variable {landed : Tried Op Answer → Bool}

/-! ## Scripts that go on with what landed -/

/-- A script that accepts an answer exactly if it landed. -/
inductive Heeds (landed : Tried Op Answer → Bool) : Script Op Answer α → Prop where
  | done (v : α) : Heeds landed (.done v)
  | attempt {ν : Type} {op : Op} {accept : Answer op → Option ν} {next : ν → Script Op Answer α}
      (first : ∀ answer, accept answer = none ↔ landed ⟨op, answer⟩ = false)
      (more : ∀ v, Heeds landed (next v)) : Heeds landed (attempt op accept next)

namespace Heeds

theorem insist {op : Op} {accept : Answer op → Option α}
    (h : ∀ answer, landed ⟨op, answer⟩ = (accept answer).isSome) :
    Heeds landed (insist op accept) := by
  refine .attempt (fun answer => ?_) .done
  rw [h, Option.isSome_eq_false_iff, Option.isNone_iff_eq_none]

theorem andThen {a : Script Op Answer α} {f : α → Script Op Answer β} (ha : Heeds landed a)
    (hf : ∀ v, Heeds landed (f v)) : Heeds landed (a.andThen f) := by
  induction ha with
  | done v => exact hf v
  | attempt first _ ih => exact .attempt first ih

theorem each {items : List β} {f : β → Script Op Answer Unit}
    (hf : ∀ item ∈ items, Heeds landed (f item)) : Heeds landed (each items f) := by
  induction items with
  | nil => exact .done ()
  | cons item items ih =>
    obtain ⟨hitem, hitems⟩ := List.forall_mem_cons.1 hf
    exact hitem.andThen fun _ => ih hitems

/-- What is refused did not land. -/
theorem takes {script : Script Op Answer α} (h : Heeds landed script) : Takes landed script := by
  induction h with
  | done v => exact .done v
  | attempt first _ ih => exact .attempt (fun answer => (first answer).1) ih

variable {script rest : Script Op Answer α} {t : Tried Op Answer}

theorem tries (h : Heeds landed script) (ht : Tries script t rest) : Heeds landed rest := by
  cases h with
  | done v => cases ht
  | attempt first more =>
    cases ht with
    | accepted _ => exact more _
    | refused _ => exact .attempt first more

/-- A try that did not land leaves the script as it was. -/
theorem eq_of_not_landed (h : Heeds landed script) (ht : Tries script t rest)
    (hlanded : landed t = false) : rest = script := by
  cases h with
  | done v => cases ht
  | attempt first _ =>
    cases ht with
    | accepted haccept =>
      rw [(first _).2 hlanded] at haccept
      cases haccept
    | refused _ => rfl

/-- The same operation can be tried again without landing. -/
theorem again {u : Tried Op Answer} (h : Heeds landed script) (ht : Tries script t rest)
    (hop : u.op = t.op) (hlanded : landed u = false) : Tries script u script := by
  obtain ⟨op, answer⟩ := u
  cases h with
  | done v => cases ht
  | attempt first _ =>
    cases ht <;> cases hop <;> exact .refused ((first _).2 hlanded)

/-- Tries of the same operation that do not land lead nowhere. -/
theorem leads_again {us : List (Tried Op Answer)} (h : Heeds landed script)
    (ht : Tries script t rest) (hus : ∀ u ∈ us, u.op = t.op ∧ landed u = false) :
    Leads script us script := by
  induction us with
  | nil => exact .nil script
  | cons u us ih =>
    obtain ⟨⟨hop, hlanded⟩, hus⟩ := List.forall_mem_cons.1 hus
    exact .cons (h.again ht hop hlanded) (ih hus)

theorem leads {past : List (Tried Op Answer)} (h : Heeds landed script)
    (hleads : Leads script past rest) : Heeds landed rest := by
  induction hleads with
  | nil script => exact h
  | cons first _ ih => exact ih (h.tries first)

end Heeds

/-! ## Runs, try by try -/

section Runs

variable {perform : (op : Op) → StateM σ (Answer op)} {op : Op} {accept : Answer op → Option β}
  {next : β → Script Op Answer α} {s : σ}

theorem run_accepted {v : β} (h : accept (perform op s).1 = some v) (patience : Nat) :
    run perform (attempt op accept next) patience s
      = run perform (next v) patience (perform op s).2 := by
  rw [run]
  rcases hs : perform op s with ⟨answer, s₁⟩
  rw [hs] at h
  cases patience <;> rw [persist, hs] <;> dsimp only at h ⊢ <;> rw [h]

theorem run_refused (h : accept (perform op s).1 = none) (patience : Nat) :
    run perform (attempt op accept next) (patience + 1) s
      = run perform (attempt op accept next) patience (perform op s).2 := by
  rw [run, run]
  rcases hs : perform op s with ⟨answer, s₁⟩
  rw [hs] at h
  rw [persist, hs]
  dsimp only at h ⊢
  rw [h]

theorem run_refused_zero (h : accept (perform op s).1 = none) :
    run perform (attempt op accept next) 0 s = ((attempt op accept next, 0), (perform op s).2) := by
  rw [run]
  rcases hs : perform op s with ⟨answer, s₁⟩
  rw [hs] at h
  rw [persist, hs]
  dsimp only at h ⊢
  rw [h]

/-- An operation that is always refused, in a state that stays one of this kind, is never
got past. -/
theorem run_stuck {stuck : σ → Prop}
    (hstuck : ∀ s, stuck s → accept (perform op s).1 = none ∧ stuck (perform op s).2)
    (hs : stuck s) (patience : Nat) :
    (run perform (attempt op accept next) patience s).1.1.value? = none := by
  induction patience generalizing s with
  | zero =>
    rw [run_refused_zero (hstuck s hs).1]
    rfl
  | succ patience ih =>
    rw [run_refused (hstuck s hs).1]
    exact ih (hstuck s hs).2

/-- Induction on a run that is over: what holds at its end, and before each operation if it
holds behind it, holds at its start. -/
@[elab_as_elim]
theorem run_over_induction {motive : Script Op Answer α → Nat → σ → Prop}
    {script : Script Op Answer α} {patience left : Nat} {s s' : σ} {v : α}
    (h : run perform script patience s = ((.done v, left), s')) (ended : motive (.done v) left s')
    (accepted : ∀ {γ : Type} {op : Op} {accept : Answer op → Option γ}
      {next : γ → Script Op Answer α} {patience : Nat} {s : σ} {w : γ},
      accept (perform op s).1 = some w → motive (next w) patience (perform op s).2 →
        motive (attempt op accept next) patience s)
    (refused : ∀ {γ : Type} {op : Op} {accept : Answer op → Option γ}
      {next : γ → Script Op Answer α} {patience : Nat} {s : σ},
      accept (perform op s).1 = none → motive (attempt op accept next) patience (perform op s).2 →
        motive (attempt op accept next) (patience + 1) s) :
    motive script patience s := by
  induction script generalizing patience s with
  | done w =>
    cases h
    exact ended
  | attempt op accept next ih =>
    induction patience generalizing s with
    | zero =>
      cases ha : accept (perform op s).1 with
      | some w =>
        rw [run_accepted ha] at h
        exact accepted ha (ih w h)
      | none =>
        rw [run_refused_zero ha] at h
        cases h
    | succ patience ihp =>
      cases ha : accept (perform op s).1 with
      | some w =>
        rw [run_accepted ha] at h
        exact accepted ha (ih w h)
      | none =>
        rw [run_refused ha] at h
        exact refused ha (ihp h)

/-- A run of one script and then another, when the first is over. -/
theorem run_andThen {a : Script Op Answer β} {f : β → Script Op Answer α} {patience left : Nat}
    {s' : σ} {v : β} (h : run perform a patience s = ((.done v, left), s')) :
    run perform (a.andThen f) patience s = run perform (f v) left s' := by
  refine run_over_induction h ?ended ?accepted ?refused
  case ended => rfl
  case accepted =>
    intro _ _ _ _ _ _ _ ha hnext
    rw [andThen, run_accepted ha, hnext]
  case refused =>
    intro _ _ _ _ _ _ ha hnext
    rw [andThen, run_refused ha]
    exact hnext

/-- A run of one script and then another, when the first gives up. -/
theorem run_andThen_open {a a' : Script Op Answer β} {f : β → Script Op Answer α}
    {patience left : Nat} {s' : σ} (h : run perform a patience s = ((a', left), s'))
    (hopen : a'.value? = none) :
    run perform (a.andThen f) patience s = ((a'.andThen f, left), s') := by
  induction a generalizing patience s with
  | done v =>
    cases h
    cases hopen
  | attempt op accept next ih =>
    rw [run] at h
    rw [andThen, run]
    rcases hp : persist (perform op) accept patience s with ⟨⟨_ | v, left'⟩, s₁⟩
    · rw [hp] at h
      cases h
      rfl
    · rw [hp] at h
      exact ih v h

/-- A run that is over leaves alone the patience that it did not need. -/
theorem run_spared {script : Script Op Answer α} {patience left : Nat} {s' : σ} {v : α}
    (h : run perform script patience s = ((.done v, left), s')) (more : Nat) :
    run perform script (patience + more) s = ((.done v, left + more), s') := by
  refine run_over_induction h ?ended ?accepted ?refused
  case ended => rfl
  case accepted =>
    intro _ _ _ _ _ _ _ ha hnext
    rw [run_accepted ha, hnext]
  case refused =>
    intro _ _ _ _ _ _ ha hnext
    rw [Nat.add_right_comm, run_refused ha, hnext]

/-- A run with more patience goes on where the one with less gave up. -/
theorem run_more {script rest : Script Op Answer α} {patience left : Nat} {s s' : σ}
    (h : run perform script patience s = ((rest, left), s')) (hopen : rest.value? = none)
    (more : Nat) : run perform script (patience + 1 + more) s = run perform rest more s' := by
  induction script generalizing patience s with
  | done v =>
    cases h
    cases hopen
  | attempt op accept next ih =>
    induction patience generalizing s with
    | zero =>
      cases ha : accept (perform op s).1 with
      | some v =>
        rw [run_accepted ha] at h
        rw [run_accepted ha, ih v h]
      | none =>
        rw [run_refused_zero ha] at h
        cases h
        rw [Nat.zero_add, Nat.add_comm, run_refused ha]
    | succ patience ihp =>
      cases ha : accept (perform op s).1 with
      | some v =>
        rw [run_accepted ha] at h
        rw [run_accepted ha, ih v h]
      | none =>
        rw [run_refused ha] at h
        rw [Nat.add_right_comm patience 1 1, Nat.add_right_comm (patience + 1) 1 more,
          run_refused ha, ihp h]

end Runs

/-! ## Finished runs and their journals -/

section Finished

variable {perform : (op : Op) → StateM σ (Answer op)} {script : Script Op Answer α} {s s' : σ}
  {past : List (Tried Op Answer)} {v : α}

theorem ungranted_cons (t : Tried Op Answer) (past : List (Tried Op Answer)) :
    ungranted landed (t :: past) = ungranted landed [t] + ungranted landed past :=
  ungranted_append landed [t] past

theorem ungranted_landed {t : Tried Op Answer} (h : landed t = true) : ungranted landed [t] = 0 := by
  simp [ungranted, h]

theorem landed_of_accepted {ν : Type} {op : Op} {accept : Answer op → Option ν}
    (h : ∀ answer, accept answer = none ↔ landed ⟨op, answer⟩ = false) {answer : Answer op} {w : ν}
    (ha : accept answer = some w) : landed ⟨op, answer⟩ = true := by
  rw [← Bool.not_eq_false, ← h, ha]
  exact nofun

/-- A run that is over has waited once for each try that did not land. -/
theorem Heeds.waits (h : Heeds landed script) {patience left : Nat}
    {past' : List (Tried Op Answer)}
    (hrun : run (journaled perform) script patience (s, past) = ((.done v, left), s', past')) :
    patience + ungranted landed past = left + ungranted landed past' := by
  suffices hwaits : Heeds landed script →
      patience + ungranted landed (s, past).2 = left + ungranted landed past' from hwaits h
  refine run_over_induction hrun ?ended ?accepted ?refused
  case ended => exact fun _ => rfl
  case accepted =>
    rintro _ op _ _ _ ⟨s, past⟩ w ha hnext (_ | ⟨first, more⟩)
    rw [journaled_eq] at ha
    have hlanded := landed_of_accepted first ha
    have hrest := hnext (more w)
    rwa [journaled_eq, ungranted_append, ungranted_landed hlanded] at hrest
  case refused =>
    rintro _ op _ _ _ ⟨s, past⟩ ha hnext h
    rw [journaled_eq] at ha
    have hrest := hnext h
    -- Each try that is refused is in the journal, and a wait is behind it.
    cases h with
    | attempt first _ =>
      rw [journaled_eq, ungranted_append, ungranted_refused ((first _).1 ha)] at hrest
      dsimp only at hrest ⊢
      omega

/-- A journal that ends a script is that of a run with enough patience. -/
theorem run_of_leads (h : Heeds landed script) {new : List (Tried Op Answer)}
    (hleads : Leads script new (.done v)) (hplays : Plays perform s new s') (left : Nat)
    (past : List (Tried Op Answer)) :
    run (journaled perform) script (left + ungranted landed new) (s, past)
      = ((.done v, left), s', past ++ new) := by
  generalize hrest : Script.done v = rest at hleads
  induction hleads generalizing s past with
  | nil script =>
    cases hplays
    subst hrest
    rw [List.append_nil]
    rfl
  | @cons script script' rest t new first _ ih =>
    obtain ⟨hanswer, hplays⟩ := hplays.of_cons
    have hmore := ih (h.tries first) hplays (past ++ [t]) hrest
    rw [List.append_assoc, List.singleton_append] at hmore
    rw [ungranted_cons, ← hmore]
    cases h with
    | done v => cases first
    | @attempt _ op _ _ hfirst _ =>
      cases first with
      | @accepted _ _ answer _ _ w ha =>
        obtain rfl : (perform op s).1 = answer := hanswer
        rw [ungranted_landed (landed_of_accepted hfirst ha), Nat.zero_add]
        exact run_accepted (s := (s, past)) ha _
      | @refused _ _ answer _ _ ha =>
        obtain rfl : (perform op s).1 = answer := hanswer
        rw [ungranted_refused ((hfirst _).1 ha), Nat.add_comm 1, ← Nat.add_assoc]
        exact run_refused (s := (s, past)) ha _

/-- Runs that are over agree, however long they could wait. -/
theorem Heeds.runs_agree (h : Heeds landed script) {patience left patience' left' : Nat} {s₁ s₂ : σ}
    {w : α} {past past' : List (Tried Op Answer)}
    (hrun : run (journaled perform) script patience (s, []) = ((.done v, left), s₁, past))
    (hrun' : run (journaled perform) script patience' (s, []) = ((.done w, left'), s₂, past')) :
    s₁ = s₂ ∧ past = past' := by
  obtain ⟨past, rfl, hplays, hleads⟩ := run_journaled hrun
  obtain ⟨past', rfl, hplays', hleads'⟩ := run_journaled hrun'
  -- Both journals are those of a run with enough patience for both.
  have hone := run_of_leads h hleads hplays (ungranted landed past') []
  have htwo := run_of_leads h hleads' hplays' (ungranted landed past) []
  rw [Nat.add_comm, htwo] at hone
  obtain ⟨hstate, hpast⟩ := Prod.mk.inj (Prod.mk.inj hone).2
  exact ⟨hstate.symm, hpast.symm⟩

end Finished

/-! ## Runs that are never over -/

/-- The operation that a script tries next. -/
def op? : Script Op Answer α → Option Op
  | done _ => none
  | attempt op _ _ => some op

/-- A script whose next operation does not land, in a state that stays one of
this kind, is never done. -/
theorem Heeds.never_done {perform : (op : Op) → StateM σ (Answer op)} {script : Script Op Answer α}
    (h : Heeds landed script) {op : Op} (hop : script.op? = some op) {stuck : σ → Prop}
    (hstuck : ∀ s, stuck s → landed ⟨op, (perform op s).1⟩ = false ∧ stuck (perform op s).2) {s : σ}
    (hs : stuck s) (patience : Nat) : (run perform script patience s).1.1.value? = none := by
  cases h with
  | done v => cases hop
  | attempt first _ =>
    cases hop
    exact run_stuck (fun s hs => ⟨(first _).2 (hstuck s hs).1, (hstuck s hs).2⟩) hs patience

/-- A run that gets stuck without patience is never over. -/
theorem Heeds.never_over {perform : (op : Op) → StateM σ (Answer op)} {script : Script Op Answer α}
    (h : Heeds landed script) {s : σ} {op : Op} (hop : (run perform script 0 s).1.1.op? = some op)
    {stuck : σ → Prop}
    (hstuck : ∀ s, stuck s → landed ⟨op, (perform op s).1⟩ = false ∧ stuck (perform op s).2)
    (hs : stuck (run perform script 0 s).2) (patience : Nat) :
    (run perform script patience s).1.1.value? = none := by
  rcases hrun : run perform script 0 s with ⟨⟨rest, left⟩, s'⟩
  rw [hrun] at hop hs
  have hopen : rest.value? = none := by
    cases rest with
    | done v => cases hop
    | attempt op accept next => rfl
  cases patience with
  | zero => rw [hrun]; exact hopen
  | succ patience =>
    obtain ⟨past, -, hleads⟩ := journal_of_run hrun
    have hmore := run_more hrun hopen patience
    rw [Nat.zero_add, Nat.add_comm 1] at hmore
    rw [hmore]
    exact (h.leads hleads).never_done hop hstuck hs patience

/-! ## Runs that are over in the end -/

section InTheEnd

variable {perform : (op : Op) → StateM σ (Answer op)} {script : Script Op Answer α} {s : σ}

/-- An operation that lands if it is tried again and again. -/
inductive LandsInTheEnd (landed : Tried Op Answer → Bool)
    (perform : (op : Op) → StateM σ (Answer op)) (op : Op) : σ → Prop where
  | now {s : σ} (h : landed ⟨op, (perform op s).1⟩ = true) : LandsInTheEnd landed perform op s
  | later {s : σ} (h : LandsInTheEnd landed perform op (perform op s).2) :
      LandsInTheEnd landed perform op s

/-- Every operation that a script comes to lands in the end. -/
def NeverStuck (landed : Tried Op Answer → Bool) (perform : (op : Op) → StateM σ (Answer op))
    (script : Script Op Answer α) (s : σ) : Prop :=
  ∀ past rest s' op, Leads script past rest → Plays perform s past s' → rest.op? = some op →
    LandsInTheEnd landed perform op s'

theorem NeverStuck.tries {op : Op} {rest : Script Op Answer α}
    (h : NeverStuck landed perform script s) (ht : Tries script ⟨op, (perform op s).1⟩ rest) :
    NeverStuck landed perform rest (perform op s).2 :=
  fun past rest' s' op' hleads hplays hop =>
    h (_ :: past) rest' s' op' (.cons ht hleads) (.cons rfl hplays) hop

/-- A script that never gets stuck is over, with enough patience. -/
theorem Heeds.over_of_neverStuck (h : Heeds landed script)
    (hnever : NeverStuck landed perform script s) :
    ∃ patience left s' v, run perform script patience s = ((.done v, left), s') := by
  induction h generalizing s with
  | done v => exact ⟨0, 0, s, v, rfl⟩
  | @attempt ν op accept next first more ih =>
    have hgo : ∀ {s : σ} {w : ν}, accept (perform op s).1 = some w →
        NeverStuck landed perform (.attempt op accept next) s → ∃ patience left s' v,
          run perform (.attempt op accept next) patience s = ((.done v, left), s') := by
      intro s w ha hnever
      obtain ⟨patience, left, s', v, hrun⟩ := ih w (hnever.tries (.accepted ha))
      exact ⟨patience, left, s', v, (run_accepted ha patience).trans hrun⟩
    have hlands := hnever [] _ s op (.nil _) (.nil _) rfl
    -- It is refused until it lands, and each time that costs a wait.
    induction hlands with
    | @now s hnow =>
      cases ha : accept (perform op s).1 with
      | some w => exact hgo ha hnever
      | none =>
        rw [(first _).1 ha] at hnow
        cases hnow
    | @later s _ ihlands =>
      cases ha : accept (perform op s).1 with
      | some w => exact hgo ha hnever
      | none =>
        obtain ⟨patience, left, s', v, hrun⟩ := ihlands (hnever.tries (.refused ha))
        exact ⟨patience + 1, left, s', v, (run_refused ha patience).trans hrun⟩

/-- An attempt never gets stuck if its operation lands in the end and what one try leads to
never gets stuck. -/
theorem NeverStuck.attempt {op : Op} {accept : Answer op → Option β}
    {next : β → Script Op Answer α} (hlands : LandsInTheEnd landed perform op s)
    (hmore : ∀ rest, Tries (.attempt op accept next) ⟨op, (perform op s).1⟩ rest →
      NeverStuck landed perform rest (perform op s).2) :
    NeverStuck landed perform (.attempt op accept next) s := by
  intro past rest s' op' hleads hplays hop
  cases hleads with
  | nil =>
    cases hplays
    cases hop
    exact hlands
  | cons hfirst hothers =>
    obtain ⟨hanswer, hplays⟩ := hplays.of_cons
    cases hfirst with
    | @accepted _ _ answer _ _ _ hw =>
      obtain rfl : (perform op s).1 = answer := hanswer
      exact hmore _ (.accepted hw) _ _ _ _ hothers hplays hop
    | @refused _ _ answer _ _ hnone =>
      obtain rfl : (perform op s).1 = answer := hanswer
      exact hmore _ (.refused hnone) _ _ _ _ hothers hplays hop

/-- A run that is over did not get stuck anywhere. -/
theorem Heeds.neverStuck_of_over (h : Heeds landed script) {patience left : Nat} {s' : σ} {v : α}
    (hrun : run perform script patience s = ((.done v, left), s')) :
    NeverStuck landed perform script s := by
  revert h
  refine run_over_induction hrun ?ended ?accepted ?refused
  case ended =>
    intro _ past rest s' op hleads _ hop
    rw [hleads.of_done.2] at hop
    cases hop
  case accepted =>
    intro γ op accept next _ s w ha hnext h
    cases h with
    | attempt first more =>
      refine .attempt (.now (landed_of_accepted first ha)) fun rest htry => ?_
      cases htry with
      | accepted hw =>
        rw [ha] at hw
        cases hw
        exact hnext (more w)
      | refused hnone =>
        rw [ha] at hnone
        cases hnone
  case refused =>
    intro γ op accept next _ s ha hnext h
    have hstill := hnext h
    refine .attempt (.later (hstill [] _ _ op (.nil _) (.nil _) rfl)) fun rest htry => ?_
    cases htry with
    | accepted hw =>
      rw [ha] at hw
      cases hw
    | refused _ => exact hstill

end InTheEnd

end Script

/-! ## Worlds that disturb others -/

/-- Operations that do what others do, as far as is seen of the state, or do not
land and change nothing that is seen. Each of the latter uses up one of the
failures that are left. -/
def Disturbs (landed : Tried Op Answer → Bool) (failing : (op : Op) → StateM τ (Answer op))
    (perform : (op : Op) → StateM σ (Answer op)) (view : τ → σ) (left : τ → Nat) : Prop :=
  ∀ op t,
    (landed ⟨op, (failing op t).1⟩ = false ∧ view (failing op t).2 = view t ∧
      left (failing op t).2 < left t) ∨
    (perform op (view t) = ((failing op t).1, view (failing op t).2) ∧
      left (failing op t).2 ≤ left t)

namespace Disturbs

open Script

variable {landed : Tried Op Answer → Bool} {failing : (op : Op) → StateM τ (Answer op)}
  {perform : (op : Op) → StateM σ (Answer op)} {view : τ → σ} {left : τ → Nat}
  (h : Disturbs landed failing perform view left)
include h

/-- A journal without the failures in it. What landed is the same, and it has no
more that did not. -/
theorem calm {script rest : Script Op Answer α} (hscript : Heeds landed script) {t t' : τ}
    {past : List (Tried Op Answer)} (hleads : Leads script past rest)
    (hplays : Plays failing t past t') :
    ∃ calm, Leads script calm rest ∧ Plays perform (view t) calm (view t') ∧
      calm.filter landed = past.filter landed ∧
      ungranted landed calm ≤ ungranted landed past := by
  induction hleads generalizing t with
  | nil script =>
    cases hplays
    exact ⟨[], .nil _, .nil _, rfl, Nat.le_refl 0⟩
  | @cons script script' rest d past first _ ih =>
    obtain ⟨hanswer, hrest⟩ := hplays.of_cons
    obtain ⟨calm, hcalm, hplayed, hsame, hfewer⟩ := ih (hscript.tries first) hrest
    rcases h d.op t with ⟨hfailed, hview, -⟩ | ⟨hdone, -⟩
    -- A failure is left out: the script stands where it stood, and so does what is seen.
    · rw [hanswer] at hfailed
      have hlanded : landed d = false := hfailed
      have hstays := hscript.eq_of_not_landed first hlanded
      rw [hstays] at hcalm
      rw [hview] at hplayed
      exact ⟨calm, hcalm, hplayed, by rw [List.filter_cons, hlanded, hsame]; rfl,
        by rw [ungranted_cons]; omega⟩
    · rw [hanswer] at hdone
      have hfirst : (perform d.op (view t)).1 = d.answer := by rw [hdone]
      have hnext : (perform d.op (view t)).2 = view (failing d.op t).2 := by rw [hdone]
      refine ⟨d :: calm, .cons first hcalm, .cons hfirst (hnext ▸ hplayed), ?_, ?_⟩
      · rw [List.filter_cons, List.filter_cons, hsame]
      · rw [ungranted_cons d calm, ungranted_cons d past]
        omega

/-- An operation fails until it does what it does to what is seen, or as long as
failures are left. -/
theorem tries_through (op : Op) (t : τ) :
    ∃ fails t₁, Plays failing t fails t₁ ∧ (∀ d ∈ fails, d.op = op ∧ landed d = false) ∧
      view t₁ = view t ∧
      perform op (view t₁) = ((failing op t₁).1, view (failing op t₁).2) ∧
      left (failing op t₁).2 + fails.length ≤ left t := by
  generalize hn : left t = n
  induction n using Nat.strongRecOn generalizing t with
  | ind n ih =>
    rcases h op t with ⟨hfailed, hview, hless⟩ | ⟨hdone, hleft⟩
    · obtain ⟨fails, t₁, hplays, hfails, hsame, hdone, hleft⟩ :=
        ih (left (failing op t).2) (hn ▸ hless) (failing op t).2 rfl
      refine ⟨⟨op, (failing op t).1⟩ :: fails, t₁, .cons rfl hplays,
        List.forall_mem_cons.2 ⟨⟨rfl, hfailed⟩, hfails⟩, hsame.trans hview, hdone, ?_⟩
      rw [List.length_cons]
      omega
    · exact ⟨[], t, .nil t, nofun, rfl, hdone, by rw [List.length_nil]; omega⟩

/-- A journal with failures in it, as many as are left at most. -/
theorem disturbed {script rest : Script Op Answer α} (hscript : Heeds landed script) {s s' : σ}
    {past : List (Tried Op Answer)} (hleads : Leads script past rest)
    (hplays : Plays perform s past s') {t : τ} (ht : view t = s) :
    ∃ disturbed t', Leads script disturbed rest ∧ Plays failing t disturbed t' ∧
      ungranted landed disturbed + left t' ≤ ungranted landed past + left t := by
  induction hleads generalizing s t with
  | nil script => exact ⟨[], t, .nil _, .nil _, Nat.le_refl _⟩
  | @cons script script' rest d past first _ ih =>
    obtain ⟨hanswer, hrest⟩ := hplays.of_cons
    obtain ⟨fails, t₁, hfailed, hfails, hsame, hdone, hleft⟩ := h.tries_through d.op t
    rw [hsame.trans ht] at hdone
    have hfirst : (failing d.op t₁).1 = d.answer := by rw [← hanswer, hdone]
    have hnext : view (failing d.op t₁).2 = (perform d.op s).2 := by rw [hdone]
    obtain ⟨disturbed, t', hlater, hplayed, hcount⟩ := ih (hscript.tries first) hrest hnext
    have hfew : ungranted landed fails ≤ fails.length := List.countP_le_length
    refine ⟨fails ++ d :: disturbed, t', (hscript.leads_again first hfails).append
      (.cons first hlater), hfailed.append (.cons hfirst hplayed), ?_⟩
    rw [ungranted_append, ungranted_cons d disturbed, ungranted_cons d past]
    omega

/-! ### Runs -/

variable {script : Script Op Answer α}

/-- A run that is over without failures is over with them as well, if it may
wait once more for each failure that is left. -/
theorem run_disturbed (hscript : Heeds landed script) {patience waits : Nat} {t : τ} {s' : σ} {v : α}
    {past : List (Tried Op Answer)}
    (hrun : run (journaled perform) script patience (view t, []) = ((.done v, waits), s', past)) :
    ∃ waits' t' past', run (journaled failing) script (patience + left t) (t, [])
      = ((.done v, waits'), t', past') := by
  have hwaits := hscript.waits hrun
  obtain ⟨past, rfl, hplays, hleads⟩ := run_journaled hrun
  obtain ⟨disturbed, t', hleads', hplays', hcount⟩ := h.disturbed hscript hleads hplays rfl
  have hnil : ungranted landed ([] : List (Tried Op Answer)) = 0 := rfl
  obtain ⟨waits', hpatience⟩ : ∃ waits', patience + left t = waits' + ungranted landed disturbed :=
    ⟨patience + left t - ungranted landed disturbed, by omega⟩
  rw [hpatience]
  exact ⟨waits', t', _, run_of_leads hscript hleads' hplays' waits' _⟩

/-- A run that is over with failures is over without them, with no more
patience. -/
theorem run_calm (hscript : Heeds landed script) {patience waits : Nat} {t t' : τ} {v : α}
    {past' : List (Tried Op Answer)}
    (hrun : run (journaled failing) script patience (t, []) = ((.done v, waits), t', past')) :
    ∃ waits' past, run (journaled perform) script patience (view t, [])
        = ((.done v, waits'), view t', past) ∧ past'.filter landed = past.filter landed := by
  have hwaits := hscript.waits hrun
  obtain ⟨past', rfl, hplays, hleads⟩ := run_journaled hrun
  obtain ⟨calm, hleads', hplays', hfilter, hfewer⟩ := h.calm hscript hleads hplays
  have hnil : ungranted landed ([] : List (Tried Op Answer)) = 0 := rfl
  obtain ⟨waits', hpatience⟩ : ∃ waits', patience = waits' + ungranted landed calm :=
    ⟨patience - ungranted landed calm, by omega⟩
  refine ⟨waits', calm, ?_, hfilter.symm⟩
  rw [hpatience, run_of_leads hscript hleads' hplays' waits' [], List.nil_append]

/-- A run that is over with failures and one that is over without them agree on
what landed and on what is seen of the state. -/
theorem runs_agree (hscript : Heeds landed script) {patience waits patience' waits' : Nat}
    {t t' : τ} {s' : σ} {v w : α} {past past' : List (Tried Op Answer)}
    (hrun : run (journaled perform) script patience (view t, []) = ((.done v, waits), s', past))
    (hrun' : run (journaled failing) script patience' (t, []) = ((.done w, waits'), t', past')) :
    view t' = s' ∧ past'.filter landed = past.filter landed := by
  obtain ⟨waits'', calm, hcalm, hfilter⟩ := h.run_calm hscript hrun'
  obtain ⟨hview, rfl⟩ := hscript.runs_agree hcalm hrun
  exact ⟨hview, hfilter⟩

end Disturbs

end RelayHub
