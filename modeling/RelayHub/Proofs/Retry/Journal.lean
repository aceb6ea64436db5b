/-
What a script did, operation by operation.

A journal is the list of the operations that were tried, each with its answer.
It splits a run in two halves that know nothing of each other: `Leads` says
which journals a script allows, whatever the world answers, and `Plays` says
which answers a world gives, whatever asked for them. A run keeps a journal by
being carried out with `journaled` operations, and `run_journaled` hands its
two halves out; everything else here is about one half alone.
-/
import Mathlib.Data.List.Forall2
import RelayHub.Retry.Script

set_option autoImplicit false

namespace RelayHub

/-- An operation that was tried, and what it answered. -/
structure Tried (Op : Type) (Answer : Op → Type) where
  op : Op
  answer : Answer op

variable {Op : Type} {Answer : Op → Type} {σ : Type} {α β γ : Type}

instance [DecidableEq Op] [(op : Op) → DecidableEq (Answer op)] : DecidableEq (Tried Op Answer)
  | ⟨op, answer⟩, ⟨op', answer'⟩ =>
    if h : op = op' then
      if h' : h ▸ answer = answer' then
        .isTrue (by subst h; exact congrArg _ h')
      else .isFalse fun e => by
        cases e
        exact h' rfl
    else .isFalse fun e => h (congrArg Tried.op e)

/-- The same operations, each written down behind those before it. -/
def journaled (perform : (op : Op) → StateM σ (Answer op)) :
    (op : Op) → StateM (σ × List (Tried Op Answer)) (Answer op) := fun op (s, past) =>
  let (answer, s) := perform op s
  (answer, s, past ++ [⟨op, answer⟩])

theorem journaled_eq (perform : (op : Op) → StateM σ (Answer op)) (op : Op) (s : σ)
    (past : List (Tried Op Answer)) :
    journaled perform op (s, past)
      = ((perform op s).1, (perform op s).2, past ++ [⟨op, (perform op s).1⟩]) := rfl

/-- What stands in one journal or in another stands in both together, and
nothing else does. -/
theorem append_eq_split {past past' pre post : List α} {t : α}
    (h : past ++ past' = pre ++ t :: post) :
    (∃ mid, past = pre ++ t :: mid ∧ post = mid ++ past') ∨
      ∃ pre', pre = past ++ pre' ∧ past' = pre' ++ t :: post := by
  rcases List.append_eq_append_iff.1 h with ⟨pre', rfl, hpast'⟩ | ⟨_ | ⟨u, mid⟩, rfl, hmid⟩
  · exact .inr ⟨pre', rfl, hpast'⟩
  · exact .inr ⟨[], by simp, hmid.symm⟩
  · rw [List.cons_append] at hmid
    obtain ⟨rfl, rfl⟩ := List.cons.inj hmid
    exact .inl ⟨mid, rfl, rfl⟩

/-! ## The world's half -/

/-- The operations of a journal, performed in order, give its answers. -/
inductive Plays (perform : (op : Op) → StateM σ (Answer op)) :
    σ → List (Tried Op Answer) → σ → Prop where
  | nil (s : σ) : Plays perform s [] s
  | cons {s s' : σ} {t : Tried Op Answer} {past : List (Tried Op Answer)}
      (first : (perform t.op s).1 = t.answer) (rest : Plays perform (perform t.op s).2 past s') :
      Plays perform s (t :: past) s'

namespace Plays

variable {perform : (op : Op) → StateM σ (Answer op)} {s s' : σ}
  {t : Tried Op Answer} {past past' : List (Tried Op Answer)}

theorem one (op : Op) (s : σ) :
    Plays perform s [⟨op, (perform op s).1⟩] (perform op s).2 :=
  .cons rfl (.nil _)

theorem append {s'' : σ} (h : Plays perform s past s') (h' : Plays perform s' past' s'') :
    Plays perform s (past ++ past') s'' := by
  induction h with
  | nil s => exact h'
  | cons first rest ih => exact .cons first (ih h')

theorem split (h : Plays perform s (past ++ past') s') :
    ∃ m, Plays perform s past m ∧ Plays perform m past' s' := by
  induction past generalizing s with
  | nil => exact ⟨s, .nil s, h⟩
  | cons t past ih =>
    rw [List.cons_append] at h
    cases h with
    | cons first rest =>
      obtain ⟨m, hpast, hpast'⟩ := ih rest
      exact ⟨m, .cons first hpast, hpast'⟩

/-- The first operation of a journal, and the others after it. -/
theorem of_cons (h : Plays perform s (t :: past) s') :
    (perform t.op s).1 = t.answer ∧ Plays perform (perform t.op s).2 past s' := by
  cases h with
  | cons first rest => exact ⟨first, rest⟩

/-- Every answer of a journal is one that the world gave. -/
theorem answered (h : Plays perform s past s') (ht : t ∈ past) :
    ∃ s, (perform t.op s).1 = t.answer := by
  obtain ⟨pre, post, rfl⟩ := List.append_of_mem ht
  obtain ⟨m, -, hrest⟩ := h.split
  exact ⟨m, hrest.of_cons.1⟩

/-- What no operation of a journal changes, the journal does not change. -/
theorem keeps (h : Plays perform s past s') (view : σ → γ)
    (hkeeps : ∀ t ∈ past, ∀ s, (perform t.op s).1 = t.answer →
      view (perform t.op s).2 = view s) :
    view s' = view s := by
  induction h with
  | nil s => rfl
  | @cons s _ t past first rest ih =>
    rw [ih fun u hu => hkeeps u (List.mem_cons_of_mem _ hu)]
    exact hkeeps t List.mem_cons_self s first

end Plays

/-! ## The script's half -/

namespace Script

/-- One operation takes a script to what is left of it. -/
inductive Tries : Script Op Answer α → Tried Op Answer → Script Op Answer α → Prop where
  | accepted {ν : Type} {op : Op} {answer : Answer op} {accept : Answer op → Option ν}
      {next : ν → Script Op Answer α} {v : ν} (h : accept answer = some v) :
      Tries (attempt op accept next) ⟨op, answer⟩ (next v)
  | refused {ν : Type} {op : Op} {answer : Answer op} {accept : Answer op → Option ν}
      {next : ν → Script Op Answer α} (h : accept answer = none) :
      Tries (attempt op accept next) ⟨op, answer⟩ (attempt op accept next)

/-- A journal takes a script to what is left of it. -/
inductive Leads : Script Op Answer α → List (Tried Op Answer) → Script Op Answer α → Prop where
  | nil (script : Script Op Answer α) : Leads script [] script
  | cons {script script' rest : Script Op Answer α} {t : Tried Op Answer}
      {past : List (Tried Op Answer)} (first : Tries script t script')
      (more : Leads script' past rest) : Leads script (t :: past) rest

namespace Leads

variable {script script' rest : Script Op Answer α} {t : Tried Op Answer}
  {past past' : List (Tried Op Answer)}

theorem append (h : Leads script past script') (h' : Leads script' past' rest) :
    Leads script (past ++ past') rest := by
  induction h with
  | nil script => exact h'
  | cons first more ih => exact .cons first (ih h')

theorem snoc (h : Leads script past script') (last : Tries script' t rest) :
    Leads script (past ++ [t]) rest :=
  h.append (.cons last (.nil _))

/-- A script that is done has nothing left to try. -/
theorem of_done {v : α} (h : Leads (.done v) past rest) : past = [] ∧ rest = .done v := by
  cases h with
  | nil => exact ⟨rfl, rfl⟩
  | cons first more => cases first

end Leads

/-! ### Scripts put together -/

theorem andThen_assoc (a : Script Op Answer α) (f : α → Script Op Answer β)
    (g : β → Script Op Answer γ) :
    (a.andThen f).andThen g = a.andThen fun v => (f v).andThen g := by
  induction a with
  | done v => rfl
  | attempt op accept next ih => exact congrArg (attempt op accept) (funext ih)

theorem each_append (items more : List β) (f : β → Script Op Answer Unit) :
    each (items ++ more) f = (each items f).andThen fun _ => each more f := by
  induction items with
  | nil => rfl
  | cons item items ih => rw [List.cons_append, each, each, ih, andThen_assoc]

/-- The first operation of one script and then another is the first script's,
unless that is done. -/
theorem of_tries_andThen {a : Script Op Answer α} {f : α → Script Op Answer β}
    {t : Tried Op Answer} {rest : Script Op Answer β} (h : Tries (a.andThen f) t rest) :
    (∃ a', Tries a t a' ∧ rest = a'.andThen f) ∨ ∃ v, a = .done v ∧ Tries (f v) t rest := by
  cases a with
  | done v => exact .inr ⟨v, rfl, h⟩
  | attempt op accept next =>
    refine .inl ?_
    cases h with
    | accepted h => exact ⟨_, .accepted h, rfl⟩
    | refused h => exact ⟨_, .refused h, rfl⟩

/-- A journal of one script and then another is one of the first that does not
end it, or one of the first up to its end with one of the second behind it. -/
theorem of_leads_andThen {a : Script Op Answer α} {f : α → Script Op Answer β}
    {past : List (Tried Op Answer)} {rest : Script Op Answer β}
    (h : Leads (a.andThen f) past rest) :
    (∃ a', Leads a past a' ∧ a'.value? = none ∧ rest = a'.andThen f) ∨
      ∃ v before after, past = before ++ after ∧ Leads a before (.done v) ∧
        Leads (f v) after rest := by
  generalize hs : a.andThen f = s at h
  induction h generalizing a with
  | nil s =>
    cases a with
    | done v => exact .inr ⟨v, [], [], rfl, .nil _, hs ▸ .nil _⟩
    | attempt op accept next => exact .inl ⟨_, .nil _, rfl, hs.symm⟩
  | @cons s s' rest t past first more ih =>
    subst hs
    -- The first operation tells which of the two scripts is at work.
    rcases of_tries_andThen first with ⟨a', ha', rfl⟩ | ⟨v, rfl, hv⟩
    · rcases ih rfl with ⟨a'', ha'', hopen, rfl⟩ | ⟨v, before, after, rfl, hbefore, hafter⟩
      · exact .inl ⟨a'', .cons ha' ha'', hopen, rfl⟩
      · exact .inr ⟨v, t :: before, after, rfl, .cons ha' hbefore, hafter⟩
    · exact .inr ⟨v, [], t :: past, rfl, .nil _, .cons hv more⟩

/-- What is left of a script that is not done, with another behind it, is not
done. -/
theorem andThen_ne_done {a : Script Op Answer α} {f : α → Script Op Answer β} {w : β}
    (h : a.value? = none) : a.andThen f ≠ .done w := by
  cases a with
  | done v => cases h
  | attempt op accept next => simp [andThen]

/-- A finished journal of one script and then another is a finished journal of
each. -/
theorem of_leads_andThen_done {a : Script Op Answer α} {f : α → Script Op Answer β}
    {past : List (Tried Op Answer)} {w : β} (h : Leads (a.andThen f) past (.done w)) :
    ∃ v before after, past = before ++ after ∧ Leads a before (.done v) ∧
      Leads (f v) after (.done w) := by
  rcases of_leads_andThen h with ⟨a', -, hopen, hdone⟩ | hsplit
  · exact absurd hdone.symm (andThen_ne_done hopen)
  · exact hsplit

/-! ### Insisting -/

/-- Operations that are all tries of one operation, none of which would do. -/
def Refusals (op : Op) (accept : Answer op → Option α) (tries : List (Tried Op Answer)) : Prop :=
  ∀ t ∈ tries, ∃ answer, t = ⟨op, answer⟩ ∧ accept answer = none

/-- Insisting leaves refused tries, and behind them an accepted one when it is
over. -/
theorem of_leads_insist {op : Op} {accept : Answer op → Option α}
    {past : List (Tried Op Answer)} {rest : Script Op Answer α}
    (h : Leads (insist op accept) past rest) :
    (rest = insist op accept ∧ Refusals op accept past) ∨
      ∃ tries answer v, past = tries ++ [⟨op, answer⟩] ∧ Refusals op accept tries ∧
        accept answer = some v ∧ rest = .done v := by
  generalize hs : insist op accept = s at h
  induction h with
  | nil s => exact .inl ⟨rfl, by simp [Refusals]⟩
  | @cons s s' rest t past first more ih =>
    subst hs
    -- An accepted answer ends it, and a refused one leaves the script as it was.
    cases first with
    | @accepted _ _ answer _ _ v hv =>
      obtain ⟨rfl, rfl⟩ := more.of_done
      exact .inr ⟨[], answer, v, rfl, by simp [Refusals], hv, rfl⟩
    | @refused _ _ answer _ _ hnone =>
      rcases ih rfl with ⟨rfl, htries⟩ | ⟨tries, answer', v, rfl, htries, hv, rfl⟩
      · exact .inl ⟨rfl, List.forall_mem_cons.2 ⟨⟨answer, rfl, hnone⟩, htries⟩⟩
      · exact .inr ⟨_ :: tries, answer', v, rfl,
          List.forall_mem_cons.2 ⟨⟨answer, rfl, hnone⟩, htries⟩, hv, rfl⟩

/-- Insisting that is over. -/
theorem of_leads_insist_done {op : Op} {accept : Answer op → Option α}
    {past : List (Tried Op Answer)} {v : α} (h : Leads (insist op accept) past (.done v)) :
    ∃ tries answer, past = tries ++ [⟨op, answer⟩] ∧ Refusals op accept tries ∧
      accept answer = some v := by
  rcases of_leads_insist h with ⟨hrest, _⟩ | ⟨tries, answer, w, hpast, htries, hw, hrest⟩
  · simp [insist] at hrest
  · cases hrest
    exact ⟨tries, answer, hpast, htries, hw⟩

/-- Insisting and then something else: still insisting, or past it. -/
theorem of_leads_insist_andThen {op : Op} {accept : Answer op → Option α}
    {f : α → Script Op Answer β} {past : List (Tried Op Answer)} {rest : Script Op Answer β}
    (h : Leads ((insist op accept).andThen f) past rest) :
    (rest = (insist op accept).andThen f ∧ Refusals op accept past) ∨
      ∃ tries answer v after, past = tries ++ ⟨op, answer⟩ :: after ∧
        Refusals op accept tries ∧ accept answer = some v ∧ Leads (f v) after rest := by
  rcases of_leads_andThen h with ⟨a', ha', hopen, rfl⟩ | ⟨v, before, after, rfl, hbefore, hafter⟩
  · rcases of_leads_insist ha' with ⟨rfl, htries⟩ | ⟨-, -, v, -, -, -, rfl⟩
    · exact .inl ⟨rfl, htries⟩
    · cases hopen
  · obtain ⟨tries, answer, rfl, htries, hv⟩ := of_leads_insist_done hbefore
    exact .inr ⟨tries, answer, v, after, by simp, htries, hv, hafter⟩

/-! ### The same for each item -/

/-- A journal of the same script for each item is a finished journal for some
items, followed by one for the next item if that is under way. -/
theorem of_leads_each {items : List β} {f : β → Script Op Answer Unit}
    {past : List (Tried Op Answer)} {rest : Script Op Answer Unit}
    (h : Leads (each items f) past rest) :
    ∃ finished parts, List.Forall₂ (fun item part => Leads (f item) part (.done ())) finished parts ∧
      ((items = finished ∧ past = parts.flatten ∧ rest = .done ()) ∨
        ∃ item more last a, items = finished ++ item :: more ∧ past = parts.flatten ++ last ∧
          Leads (f item) last a ∧ a.value? = none ∧ rest = a.andThen fun _ => each more f) := by
  induction items generalizing past with
  | nil =>
    obtain ⟨rfl, rfl⟩ := Leads.of_done h
    exact ⟨[], [], .nil, .inl ⟨rfl, rfl, rfl⟩⟩
  | cons item items ih =>
    -- The first item is under way, or it is over and the others have the rest of
    -- the journal.
    rcases of_leads_andThen h with ⟨a, ha, hopen, rfl⟩ | ⟨_, before, after, rfl, hbefore, hafter⟩
    · exact ⟨[], [], .nil, .inr ⟨item, items, past, a, rfl, rfl, ha, hopen, rfl⟩⟩
    · obtain ⟨finished, parts, hparts, hend⟩ := ih hafter
      refine ⟨item :: finished, before :: parts, .cons hbefore hparts, ?_⟩
      rcases hend with ⟨rfl, rfl, rfl⟩ | ⟨item', more, last, a, rfl, rfl, hlast, hopen, rfl⟩
      · exact .inl ⟨rfl, rfl, rfl⟩
      · exact .inr ⟨item', more, last, a, rfl, by simp, hlast, hopen, rfl⟩

/-- A finished journal of the same script for each item. -/
theorem of_leads_each_done {items : List β} {f : β → Script Op Answer Unit}
    {past : List (Tried Op Answer)} (h : Leads (each items f) past (.done ())) :
    ∃ parts, List.Forall₂ (fun item part => Leads (f item) part (.done ())) items parts ∧
      past = parts.flatten := by
  obtain ⟨finished, parts, hparts, ⟨rfl, rfl, -⟩ | ⟨_, _, _, a, -, -, -, hopen, hdone⟩⟩ :=
    of_leads_each h
  · exact ⟨parts, hparts, rfl⟩
  · exact absurd hdone.symm (andThen_ne_done hopen)

/-! ## Both halves of a run -/

section Runs

variable {perform : (op : Op) → StateM σ (Answer op)} {s : σ} {past : List (Tried Op Answer)}

/-- What one step of a script does: nothing if it is done, else one operation. -/
theorem step_journaled {script rest : Script Op Answer α} {s' : σ}
    {past' : List (Tried Op Answer)}
    (h : step (journaled perform) script (s, past) = (rest, s', past')) :
    (∃ v, script = .done v ∧ rest = script ∧ s' = s ∧ past' = past) ∨
      ∃ op, Tries script ⟨op, (perform op s).1⟩ rest ∧ s' = (perform op s).2 ∧
        past' = past ++ [⟨op, (perform op s).1⟩] := by
  cases script with
  | done v =>
    cases h
    exact .inl ⟨v, rfl, rfl, rfl, rfl⟩
  | attempt op accept next =>
    refine .inr ⟨op, ?_⟩
    rw [step, journaled_eq] at h
    dsimp only at h
    cases ha : accept (perform op s).1 with
    | some v =>
      rw [ha] at h
      cases h
      exact ⟨.accepted ha, rfl, rfl⟩
    | none =>
      rw [ha] at h
      cases h
      exact ⟨.refused ha, rfl, rfl⟩

/-- Persisting tries its operation until an answer will do. -/
theorem persist_journaled {op : Op} {accept : Answer op → Option β}
    (next : β → Script Op Answer α) {patience left : Nat} {s' : σ} {r : Option β}
    {past' : List (Tried Op Answer)}
    (h : persist (journaled perform op) accept patience (s, past) = ((r, left), s', past')) :
    ∃ new, past' = past ++ new ∧ Plays perform s new s' ∧
      Leads (attempt op accept next) new (r.elim (attempt op accept next) next) := by
  -- On the tries that are left. What is refused is put in front of what follows it, since
  -- a journal grows at its end.
  induction patience generalizing s past with
  | zero =>
    rw [persist, journaled_eq] at h
    dsimp only at h
    cases ha : accept (perform op s).1 with
    | some v =>
      rw [ha] at h
      obtain ⟨⟨rfl, rfl⟩, rfl, rfl⟩ := h
      exact ⟨_, rfl, .one op s, .cons (.accepted ha) (.nil _)⟩
    | none =>
      rw [ha] at h
      obtain ⟨⟨rfl, rfl⟩, rfl, rfl⟩ := h
      exact ⟨_, rfl, .one op s, .cons (.refused ha) (.nil _)⟩
  | succ patience ih =>
    rw [persist, journaled_eq] at h
    dsimp only at h
    cases ha : accept (perform op s).1 with
    | some v =>
      rw [ha] at h
      obtain ⟨⟨rfl, rfl⟩, rfl, rfl⟩ := h
      exact ⟨_, rfl, .one op s, .cons (.accepted ha) (.nil _)⟩
    | none =>
      rw [ha] at h
      obtain ⟨new, rfl, hplays, hleads⟩ := ih h
      exact ⟨_ :: new, by simp, .cons rfl hplays, .cons (.refused ha) hleads⟩

/-- A run goes on with its journal as the script allows and as the world
answers. -/
theorem run_journaled {script rest : Script Op Answer α} {patience left : Nat} {s' : σ}
    {past' : List (Tried Op Answer)}
    (h : run (journaled perform) script patience (s, past) = ((rest, left), s', past')) :
    ∃ new, past' = past ++ new ∧ Plays perform s new s' ∧ Leads script new rest := by
  induction script generalizing patience s past with
  | done v =>
    obtain ⟨⟨rfl, rfl⟩, rfl, rfl⟩ := h
    exact ⟨[], by simp, .nil _, .nil _⟩
  | attempt op accept next ih =>
    unfold run at h
    -- Each operation's own journal comes first, and the rest of the run behind it.
    rcases hp : persist (journaled perform op) accept patience (s, past) with ⟨⟨r, left'⟩, m, mid⟩
    rw [hp] at h
    obtain ⟨new, rfl, hplays, hleads⟩ := persist_journaled next hp
    cases r with
    | none =>
      obtain ⟨⟨rfl, rfl⟩, rfl, rfl⟩ := h
      exact ⟨new, rfl, hplays, hleads⟩
    | some v =>
      obtain ⟨new', rfl, hplays', hleads'⟩ := ih v h
      exact ⟨new ++ new', by simp, hplays.append hplays', hleads.append hleads'⟩

/-! ### How often a run is refused -/

/-- How many deeds of a journal were not granted. -/
def ungranted (granted : Tried Op Answer → Bool) (past : List (Tried Op Answer)) : Nat :=
  past.countP fun t => !granted t

theorem ungranted_append (granted : Tried Op Answer → Bool) (past past' : List (Tried Op Answer)) :
    ungranted granted (past ++ past') = ungranted granted past + ungranted granted past' :=
  List.countP_append

theorem ungranted_refused {granted : Tried Op Answer → Bool} {t : Tried Op Answer}
    (h : granted t = false) : ungranted granted [t] = 1 := by
  simp [ungranted, h]

/-- A script that takes every answer that is granted. -/
inductive Takes (granted : Tried Op Answer → Bool) : Script Op Answer α → Prop where
  | done (v : α) : Takes granted (.done v)
  | attempt {ν : Type} {op : Op} {accept : Answer op → Option ν} {next : ν → Script Op Answer α}
      (first : ∀ answer, accept answer = none → granted ⟨op, answer⟩ = false)
      (more : ∀ v, Takes granted (next v)) : Takes granted (attempt op accept next)

namespace Takes

variable {granted : Tried Op Answer → Bool}

theorem insist {op : Op} {accept : Answer op → Option α}
    (h : ∀ answer, accept answer = none → granted ⟨op, answer⟩ = false) :
    Takes granted (insist op accept) :=
  .attempt h .done

theorem andThen {a : Script Op Answer α} {f : α → Script Op Answer β} (ha : Takes granted a)
    (hf : ∀ v, Takes granted (f v)) : Takes granted (a.andThen f) := by
  induction ha with
  | done v => exact hf v
  | attempt first _ ih => exact .attempt first ih

/-- Each wait of an operation is for a deed that was not granted, and giving up
is for one more. -/
theorem persist {op : Op} {accept : Answer op → Option β}
    (h : ∀ answer, accept answer = none → granted ⟨op, answer⟩ = false) {patience left : Nat}
    {s' : σ} {r : Option β} {past' : List (Tried Op Answer)}
    (hrun : Script.persist (journaled perform op) accept patience (s, past)
      = ((r, left), s', past')) :
    patience + ungranted granted past ≤ left + ungranted granted past' ∧
      (r = none → patience + ungranted granted past < ungranted granted past') := by
  induction patience generalizing s past with
  | zero =>
    rw [Script.persist, journaled_eq] at hrun
    dsimp only at hrun
    cases ha : accept (perform op s).1 with
    | some v =>
      rw [ha] at hrun
      obtain ⟨⟨rfl, rfl⟩, rfl, rfl⟩ := hrun
      rw [ungranted_append]
      exact ⟨by omega, fun hnone => by cases hnone⟩
    | none =>
      rw [ha] at hrun
      obtain ⟨⟨rfl, rfl⟩, rfl, rfl⟩ := hrun
      rw [ungranted_append, ungranted_refused (h _ ha)]
      exact ⟨by omega, fun _ => by omega⟩
  | succ patience ih =>
    rw [Script.persist, journaled_eq] at hrun
    dsimp only at hrun
    cases ha : accept (perform op s).1 with
    | some v =>
      rw [ha] at hrun
      obtain ⟨⟨rfl, rfl⟩, rfl, rfl⟩ := hrun
      rw [ungranted_append]
      exact ⟨by omega, fun hnone => by cases hnone⟩
    | none =>
      rw [ha] at hrun
      -- The deed that was refused is paid for by the wait behind it.
      have hrest := ih hrun
      rw [ungranted_append, ungranted_refused (h _ ha)] at hrest
      exact ⟨by omega, fun hnone => by have := hrest.2 hnone; omega⟩

/-- A run that is not over was refused more often than it could wait. -/
theorem run {script rest : Script Op Answer α} (h : Takes granted script) {patience left : Nat}
    {s' : σ} {past' : List (Tried Op Answer)}
    (hrun : Script.run (journaled perform) script patience (s, past) = ((rest, left), s', past')) :
    (∃ v, rest = .done v) ∨ patience + ungranted granted past < ungranted granted past' := by
  induction h generalizing s past patience with
  | done v =>
    cases hrun
    exact .inl ⟨v, rfl⟩
  | @attempt ν op accept next first more ih =>
    unfold Script.run at hrun
    rcases hp : Script.persist (journaled perform op) accept patience (s, past)
      with ⟨⟨r, left'⟩, m, mid⟩
    rw [hp] at hrun
    obtain ⟨hwaits, hgiven⟩ := persist first hp
    cases r with
    | none =>
      cases hrun
      exact .inr (hgiven rfl)
    | some v =>
      rcases ih v hrun with hdone | hmore
      · exact .inl hdone
      · exact .inr (by omega)

end Takes

/-! ### Keeping a journal changes nothing -/

theorem persist_erase (op : Op) (accept : Answer op → Option β) (patience : Nat) (s : σ)
    (past : List (Tried Op Answer)) :
    ((persist (journaled perform op) accept patience (s, past)).1,
        (persist (journaled perform op) accept patience (s, past)).2.1)
      = persist (perform op) accept patience s := by
  induction patience generalizing s past with
  | zero =>
    rw [persist, persist, journaled_eq]
    rcases perform op s with ⟨answer, s'⟩
    dsimp only
    cases accept answer <;> rfl
  | succ patience ih =>
    rw [persist, persist, journaled_eq]
    rcases perform op s with ⟨answer, s'⟩
    dsimp only
    cases accept answer with
    | some v => rfl
    | none => exact ih s' _

/-- A run that keeps a journal leaves of its script, and does to the world, what
the run without one does. -/
theorem run_erase (script : Script Op Answer α) (patience : Nat) (s : σ)
    (past : List (Tried Op Answer)) :
    ((run (journaled perform) script patience (s, past)).1,
        (run (journaled perform) script patience (s, past)).2.1)
      = run perform script patience s := by
  induction script generalizing patience s past with
  | done v => rfl
  | attempt op accept next ih =>
    rw [run, run, ← persist_erase op accept patience s past]
    rcases persist (journaled perform op) accept patience (s, past) with ⟨⟨r, left⟩, s', past'⟩
    cases r with
    | none => rfl
    | some v => exact ih v left s' past'

/-- A run that keeps a journal is one without it. -/
theorem run_unkept {script rest : Script Op Answer α} {patience left : Nat} {s s' : σ}
    {past past' : List (Tried Op Answer)}
    (h : run (journaled perform) script patience (s, past) = ((rest, left), s', past')) :
    run perform script patience s = ((rest, left), s') := by
  rw [← run_erase script patience s past, h]

/-- A run could have kept a journal. -/
theorem run_kept {script rest : Script Op Answer α} {patience left : Nat} {s s' : σ}
    (h : run perform script patience s = ((rest, left), s')) (past : List (Tried Op Answer)) :
    ∃ past', run (journaled perform) script patience (s, past) = ((rest, left), s', past') := by
  have herase : _ = run perform script patience s := run_erase script patience s past
  rcases hrun : run (journaled perform) script patience (s, past) with ⟨⟨rest', left'⟩, s'', past'⟩
  rw [hrun, h] at herase
  cases herase
  exact ⟨past', rfl⟩

/-- A run that has a value is over. -/
theorem run_of_value? {script : Script Op Answer α} {patience : Nat} {s : σ} {v : α}
    (h : (run perform script patience s).1.1.value? = some v) :
    ∃ left, run perform script patience s
      = ((.done v, left), (run perform script patience s).2) := by
  rcases hrun : run perform script patience s with ⟨⟨rest, left⟩, s'⟩
  rw [hrun] at h
  cases rest with
  | done w => cases h; exact ⟨left, rfl⟩
  | attempt op accept next => cases h

/-- A run has a journal, whether or not it keeps one. -/
theorem journal_of_run {script rest : Script Op Answer α} {patience left : Nat} {s s' : σ}
    (h : run perform script patience s = ((rest, left), s')) :
    ∃ past, Plays perform s past s' ∧ Leads script past rest := by
  obtain ⟨past, hrun⟩ := run_kept h []
  obtain ⟨new, -, hplays, hleads⟩ := run_journaled hrun
  exact ⟨new, hplays, hleads⟩

end Runs

end Script

end RelayHub
