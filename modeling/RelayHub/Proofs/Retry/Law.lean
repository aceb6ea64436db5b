/-
The law of retries.

An operation is a sequence of outcomes, and its calls are numbered from zero, so that a
call has the number of retries before it. A run ends with the first call whose outcome
is a success or an error not worth a retry, or before which all retries were used up; it
answers that outcome, has told of all errors before it in order, and has slept once for
each of them. `RetryCourse` says so call by call. The layers of a retry follow it, each
with its own count of retries, and so does the run that is cut off when its patience
ends.
-/
import Mathlib.Order.Bounds.Defs
import RelayHub.Proofs.Retry.Layers

set_option autoImplicit false

namespace RelayHub

open RelayHub.Action

variable {σ ε α : Type}

/-! ## Accounts -/

/-- What a run was seen to do: what it answered, how many calls it made, the errors it
told of with their numbers, and the time it slept. -/
structure Account (ε α : Type) where
  answer : Except ε α
  calls : Nat
  observed : List (Nat × ε)
  slept : Nat

/-- The same account, of a run that told of an error and slept before. -/
def Account.after (number : Nat) (e : ε) (wait : Nat) (x : Account ε α) : Account ε α :=
  { x with observed := (number, e) :: x.observed, slept := wait + x.slept }

/-- The account of a run that made this many retries after these outcomes. -/
structure Account.Tells (outcomes : Nat → Except ε α) (delay retries : Nat) (x : Account ε α) :
    Prop where
  answer : x.answer = outcomes retries
  calls : x.calls = retries + 1
  observed : x.observed.map (fun o => (o.1, .error o.2))
    = (List.range retries).map fun i => (i + 1, outcomes i)
  slept : x.slept = retries * delay

/-- The law, for the accounts that runs may return with: where the calls that can be the
last are known, a run returns when the first of them is made, and otherwise it never
returns. The retries are fewer than there are numbers for them. -/
structure KeepsLaw (last : Nat → Prop) (delay : Nat) (outcomes : Nat → Except ε α)
    (Returns : Account ε α → Prop) : Prop where
  returns {retries : Nat} : IsLeast {i | last i} retries → retries < UInt32.size → ∃ x, Returns x
  tells {retries : Nat} {x : Account ε α} : IsLeast {i | last i} retries →
    retries < UInt32.size → Returns x → x.Tells outcomes delay retries
  never {x : Account ε α} : (∀ i, ¬ last i) → ¬ Returns x

/-- A call that succeeds. -/
def Succeeds (outcomes : Nat → Except ε α) (i : Nat) : Prop :=
  ∃ v, outcomes i = .ok v

/-- A call that can be the last under a policy: one that succeeds, one whose error is not
worth a retry, and the one after the last retry. -/
def FixedBackoff.Ends (p : FixedBackoff) (retryable : ε → Bool) (outcomes : Nat → Except ε α)
    (i : Nat) : Prop :=
  Succeeds outcomes i ∨ (∃ e, outcomes i = .error e ∧ retryable e = false) ∨ p.maxRetries = some i

/-! ## Courses -/

/-- What a run does from a call on, if these calls can be the last; `number` gives the
retries their numbers. -/
inductive RetryCourse (number : Nat → Nat) (last : Nat → Prop) (delay : Nat)
    (outcomes : Nat → Except ε α) : Nat → Account ε α → Prop where
  | ends {k : Nat} (h : last k) :
      RetryCourse number last delay outcomes k ⟨outcomes k, k + 1, [], 0⟩
  | goesOn {k : Nat} {e : ε} {x : Account ε α} (h : ¬ last k) (error : outcomes k = .error e)
      (rest : RetryCourse number last delay outcomes (k + 1) x) :
      RetryCourse number last delay outcomes k (x.after (number (k + 1)) e delay)

namespace RetryCourse

variable {number : Nat → Nat} {last : Nat → Prop} {delay : Nat} {outcomes : Nat → Except ε α}

/-- A course that comes to a last call passes none before it. -/
theorem tells {k : Nat} {x : Account ε α} (h : RetryCourse number last delay outcomes k x) :
    ∃ m, last (k + m) ∧ (∀ i < m, ¬ last (k + i)) ∧ x.answer = outcomes (k + m) ∧
      x.calls = k + m + 1 ∧
      x.observed.map (fun o => (o.1, Except.error o.2))
        = (List.range' k m).map (fun i => (number (i + 1), outcomes i)) ∧
      x.slept = m * delay := by
  induction h with
  | ends h => exact ⟨0, h, nofun, rfl, rfl, rfl, by simp⟩
  | @goesOn k e x h error rest ih =>
    obtain ⟨m, hlast, hnone, hanswer, hcalls, hobserved, hslept⟩ := ih
    have hplace : k + 1 + m = k + (m + 1) := by omega
    rw [hplace] at hlast hanswer hcalls
    refine ⟨m + 1, hlast, fun i hi => ?_, hanswer, hcalls, ?_, ?_⟩
    · cases i with
      | zero => exact h
      | succ i =>
        have hother := hnone i (by omega)
        rwa [Nat.add_assoc, Nat.add_comm 1 i] at hother
    · simp only [Account.after, List.map_cons, hobserved, List.range'_succ, error]
    · change delay + x.slept = (m + 1) * delay
      rw [hslept, Nat.succ_mul, Nat.add_comm]

/-- Where some call can be the last there is a course, if only errors are passed. -/
theorem exists_of_last (herror : ∀ i, ¬ last i → ∃ e, outcomes i = .error e) {k m : Nat}
    (h : last (k + m)) : ∃ x, RetryCourse number last delay outcomes k x := by
  induction m generalizing k with
  | zero => exact ⟨_, .ends h⟩
  | succ m ih =>
    by_cases hk : last k
    · exact ⟨_, .ends hk⟩
    · obtain ⟨e, he⟩ := herror k hk
      obtain ⟨x, hx⟩ := ih (k := k + 1) (by rwa [Nat.add_assoc, Nat.add_comm 1 m])
      exact ⟨_, .goesOn hk he hx⟩

/-- A course from the first call on goes to the first call that can be the last. -/
theorem tells_of_isLeast {retries : Nat} {x : Account ε α}
    (h : RetryCourse number last delay outcomes 0 x) (hleast : IsLeast {i | last i} retries) :
    x.answer = outcomes retries ∧ x.calls = retries + 1 ∧
      x.observed.map (fun o => (o.1, Except.error o.2))
        = (List.range retries).map (fun i => (number (i + 1), outcomes i)) ∧
      x.slept = retries * delay := by
  obtain ⟨m, hlast, hnone, hanswer, hcalls, hobserved, hslept⟩ := h.tells
  simp only [Nat.zero_add] at hlast hnone hanswer hcalls
  have hle : retries ≤ m := hleast.2 hlast
  obtain rfl : retries = m :=
    Nat.le_antisymm hle (Nat.le_of_not_lt fun hlt => hnone retries hlt hleast.1)
  rw [← List.range_eq_range'] at hobserved
  exact ⟨hanswer, hcalls, hobserved, hslept⟩

/-- A course answers with an outcome that can be the last. -/
theorem answer {k : Nat} {x : Account ε α} (h : RetryCourse number last delay outcomes k x) :
    ∃ n, last n ∧ x.answer = outcomes n := by
  obtain ⟨m, hlast, -, hanswer, -⟩ := h.tells
  exact ⟨k + m, hlast, hanswer⟩

end RetryCourse

/-- What returns with the courses from the first call keeps the law, if it numbers the
retries from one on as long as there are numbers. -/
theorem keepsLaw_of_course {number : Nat → Nat} {last : Nat → Prop} {delay : Nat}
    {outcomes : Nat → Except ε α} {Returns : Account ε α → Prop}
    (hnumber : ∀ i < UInt32.size, number i = i)
    (herror : ∀ i, ¬ last i → ∃ e, outcomes i = .error e)
    (hreturns : ∀ x, Returns x ↔ RetryCourse number last delay outcomes 0 x) :
    KeepsLaw last delay outcomes Returns where
  returns {retries} hleast _ := by
    have hlast : last (0 + retries) := by rw [Nat.zero_add]; exact hleast.1
    obtain ⟨x, hx⟩ : ∃ x, RetryCourse number last delay outcomes 0 x :=
      RetryCourse.exists_of_last herror hlast
    exact ⟨x, (hreturns x).2 hx⟩
  tells {retries x} hleast hfew hx := by
    obtain ⟨hanswer, hcalls, hobserved, hslept⟩ := ((hreturns x).1 hx).tells_of_isLeast hleast
    refine ⟨hanswer, hcalls, ?_, hslept⟩
    rw [hobserved]
    refine List.map_congr_left fun i hi => ?_
    have hi : i < retries := List.mem_range.1 hi
    rw [hnumber (i + 1) (by omega)]
  never {x} hnone hx := by
    obtain ⟨n, hlast, -⟩ := ((hreturns x).1 hx).answer
    exact hnone n hlast

/-! ## Delays under a policy -/

namespace FixedBackoff

variable {p : FixedBackoff} {retryable : ε → Bool} {outcomes : Nat → Except ε α}

/-- The delays of a policy after some of them have been given. -/
def delaysAfter (p : FixedBackoff) (given : Nat) : Delays :=
  match p.maxRetries with
  | some limit => .counted ⟨p.delay, limit, given⟩
  | none => .forever p.delay

/-- The policy has had retries enough for a call. -/
def Reaches (p : FixedBackoff) (k : Nat) : Prop :=
  ∀ limit, p.maxRetries = some limit → k ≤ limit

theorem reaches_zero (p : FixedBackoff) : p.Reaches 0 :=
  fun limit _ => Nat.zero_le limit

theorem Reaches.succ {k : Nat} (h : p.Reaches k) (hmore : p.maxRetries ≠ some k) :
    p.Reaches (k + 1) := by
  intro limit hlimit
  have hne : limit ≠ k := fun heq => hmore (heq ▸ hlimit)
  have hle := h limit hlimit
  omega

theorem delaysAfter_zero (p : FixedBackoff) : p.delaysAfter 0 = p.delays := by
  unfold delaysAfter delays
  cases p.maxRetries <;> rfl

theorem delays_reset (p : FixedBackoff) : p.delays.reset = p.delaysAfter 0 := by
  unfold delaysAfter delays
  cases p.maxRetries <;> rfl

theorem delaysAfter_next_of_limit {k : Nat} (h : p.maxRetries = some k) :
    (p.delaysAfter k).next = (none, p.delaysAfter k) := by
  simp [delaysAfter, h, Delays.next, CountedDelay.next]

theorem delaysAfter_next {k : Nat} (h : p.Reaches k) (hmore : p.maxRetries ≠ some k) :
    (p.delaysAfter k).next = (some p.delay, p.delaysAfter (k + 1)) := by
  unfold delaysAfter
  cases hlimit : p.maxRetries with
  | none => rfl
  | some limit =>
    have hlt : k < limit := h.succ hmore limit hlimit
    simp [Delays.next, CountedDelay.next, hlt]

/-- A call that is not the last fails with an error worth a retry, and one more may be
made. -/
theorem of_not_ends {k : Nat} (h : ¬ p.Ends retryable outcomes k) :
    ∃ e, outcomes k = .error e ∧ retryable e = true ∧ p.maxRetries ≠ some k := by
  simp only [Ends, not_or, not_exists, not_and, Bool.not_eq_false] at h
  obtain ⟨hfails, hretryable, hmore⟩ := h
  cases hk : outcomes k with
  | ok v => exact absurd ⟨v, hk⟩ hfails
  | error e => exact ⟨e, rfl, hretryable e hk, hmore⟩

/-- A call whose error is worth a retry is the last only after the last retry. -/
theorem ends_iff_of_retryable {k : Nat} {e : ε} (he : outcomes k = .error e)
    (hretryable : retryable e = true) :
    p.Ends retryable outcomes k ↔ p.maxRetries = some k := by
  refine ⟨?_, fun hlimit => .inr (.inr hlimit)⟩
  rintro (⟨v, hv⟩ | ⟨e', he', hfinal⟩ | hlimit)
  · cases he.symm.trans hv
  · cases he.symm.trans he'
    rw [hretryable] at hfinal
    cases hfinal
  · exact hlimit

/-- Without a limit, and with every error worth a retry, a call is the last if it succeeds. -/
theorem ends_forever (delay : Nat) (outcomes : Nat → Except ε α) :
    (forever delay).Ends (fun _ => true) outcomes = Succeeds outcomes := by
  funext i
  simp [Ends, forever]

/-! ## The lowest layer follows the course -/

theorem outcome_of_graded_ok {r : Except ε α} {v : α}
    (h : r.mapError (Graded.of retryable) = .ok v) : r = .ok v := by
  cases r <;> cases h
  rfl

theorem outcome_of_permanent {r : Except ε α} {e : ε}
    (h : r.mapError (Graded.of retryable) = .error (.permanent e)) :
    r = .error e ∧ retryable e = false := by
  cases r with
  | ok v => cases h
  | error e' =>
    have hgraded : Graded.of retryable e' = .permanent e := Except.error.inj h
    rw [Graded.of] at hgraded
    split at hgraded <;> cases hgraded
    exact ⟨rfl, Bool.eq_false_iff.2 ‹_›⟩

theorem outcome_of_transient {r : Except ε α} {e : ε}
    (h : r.mapError (Graded.of retryable) = .error (.transient e)) :
    r = .error e ∧ retryable e = true := by
  cases r with
  | ok v => cases h
  | error e' =>
    have hgraded : Graded.of retryable e' = .transient e := Except.error.inj h
    rw [Graded.of] at hgraded
    split at hgraded <;> cases hgraded
    exact ⟨rfl, ‹_›⟩

theorem graded_error (retryable : ε → Bool) (e : ε) :
    (Except.error e : Except ε α).mapError (Graded.of retryable)
      = .error (if retryable e then .transient e else .permanent e) := rfl

/-- A task that has these outcomes, with the states between the calls: `before` a call and
`after` one, with so many calls made and these errors told. The number told with an error
is that of the retry which follows it. -/
structure Follows {τ : Type} (task : Action τ (Graded ε) α) (tell : ε → Nat → τ → τ)
    (number : Nat → Nat) (retryable : ε → Bool) (outcomes : Nat → Except ε α)
    (before after : Nat → List (Nat × ε) → τ) : Prop where
  performs (k : Nat) (told : List (Nat × ε)) :
    task.perform (before k told) = ((outcomes k).mapError (.of retryable), after (k + 1) told)
  tells (k : Nat) (told : List (Nat × ε)) (e : ε) (wait : Nat) :
    tell e wait (after (k + 1) told) = before (k + 1) (told ++ [(number (k + 1), e)])

namespace Follows

variable {τ : Type} {task : Action τ (Graded ε) α} {tell : ε → Nat → τ → τ} {number : Nat → Nat}
  {before after : Nat → List (Nat × ε) → τ}

theorem rounds_of_course (h : Follows task tell number retryable outcomes before after) {k : Nat}
    {y : Account ε α} (hy : RetryCourse number (p.Ends retryable outcomes) p.delay outcomes k y)
    (hk : p.Reaches k) (told : List (Nat × ε)) :
    Rounds task tell (p.delaysAfter k) (before k told)
      ⟨y.answer, after y.calls (told ++ y.observed), y.slept⟩ := by
  induction hy generalizing told with
  | @ends k hends =>
    have hperforms := h.performs k told
    rw [List.append_nil]
    cases hout : outcomes k with
    | ok v =>
      rw [hout] at hperforms
      exact .succeeds hperforms
    | error e =>
      rw [hout, graded_error] at hperforms
      split at hperforms
      · rename_i hretryable
        have hlimit := (ends_iff_of_retryable hout hretryable).1 hends
        exact .givesUp hperforms (delaysAfter_next_of_limit hlimit)
      · exact .fails hperforms
  | @goesOn k e x hends herror rest ih =>
    obtain ⟨e', he', hretryable, hmore⟩ := of_not_ends hends
    obtain rfl := Except.error.inj (herror.symm.trans he')
    have hperforms := h.performs k told
    rw [herror, graded_error, if_pos hretryable] at hperforms
    have hrest := ih (hk.succ hmore) (told ++ [(number (k + 1), e)])
    rw [← h.tells k told e p.delay, List.append_assoc] at hrest
    exact .waits hperforms (delaysAfter_next hk hmore) hrest

theorem course_of_rounds (h : Follows task tell number retryable outcomes before after)
    {delays : Delays} {s : τ} {x : Ending τ ε α} (hx : Rounds task tell delays s x) {k : Nat}
    (hk : p.Reaches k) {told : List (Nat × ε)} (hdelays : delays = p.delaysAfter k)
    (hs : s = before k told) :
    ∃ y, RetryCourse number (p.Ends retryable outcomes) p.delay outcomes k y ∧
      x = ⟨y.answer, after y.calls (told ++ y.observed), y.slept⟩ := by
  -- Each rule fits one outcome of the call, and the state after it is the one after a call.
  have hperforms := h.performs k told
  induction hx generalizing k told with
  | succeeds hdone =>
    subst hs
    obtain ⟨hanswer, rfl⟩ := Prod.mk.inj (hperforms.symm.trans hdone)
    have hout := outcome_of_graded_ok hanswer
    exact ⟨_, .ends (.inl ⟨_, hout⟩), by rw [hout, List.append_nil]⟩
  | fails hdone =>
    subst hs
    obtain ⟨hanswer, rfl⟩ := Prod.mk.inj (hperforms.symm.trans hdone)
    obtain ⟨hout, hfinal⟩ := outcome_of_permanent hanswer
    exact ⟨_, .ends (.inr (.inl ⟨_, hout, hfinal⟩)), by rw [hout, List.append_nil]⟩
  | givesUp hdone hnone =>
    subst hs hdelays
    obtain ⟨hanswer, rfl⟩ := Prod.mk.inj (hperforms.symm.trans hdone)
    obtain ⟨hout, -⟩ := outcome_of_transient hanswer
    have hlimit : p.maxRetries = some k := by
      refine Classical.byContradiction fun hmore => ?_
      rw [delaysAfter_next hk hmore] at hnone
      cases hnone
    exact ⟨_, .ends (.inr (.inr hlimit)), by rw [hout, List.append_nil]⟩
  | @waits delays later s s' e wait x hdone hsome rest ih =>
    subst hs hdelays
    obtain ⟨hanswer, rfl⟩ := Prod.mk.inj (hperforms.symm.trans hdone)
    obtain ⟨hout, hretryable⟩ := outcome_of_transient hanswer
    have hmore : p.maxRetries ≠ some k := by
      intro hlimit
      rw [delaysAfter_next_of_limit hlimit] at hsome
      cases hsome
    rw [delaysAfter_next hk hmore] at hsome
    cases hsome
    obtain ⟨y, hy, rfl⟩ := ih (hk.succ hmore) rfl (h.tells k told e p.delay) (h.performs _ _)
    have hends : ¬ p.Ends retryable outcomes k :=
      fun hends => hmore ((ends_iff_of_retryable hout hretryable).1 hends)
    refine ⟨_, .goesOn hends hout hy, ?_⟩
    simp only [Ending.after, Account.after, List.append_assoc, List.singleton_append]

/-- How the loop returns, for it starts with a new policy and before the first call. -/
theorem returns_iff (h : Follows task tell number retryable outcomes before after) {L : TryLoop}
    (hL : L.Documented) {x : Ending τ ε α} :
    L.Returns p.delays task tell (before 0 []) x ↔
      ∃ y, RetryCourse number (p.Ends retryable outcomes) p.delay outcomes 0 y ∧
        x = ⟨y.answer, after y.calls y.observed, y.slept⟩ := by
  rw [hL.returns_iff, delays_reset]
  constructor
  · exact fun hx => h.course_of_rounds hx p.reaches_zero rfl rfl
  · rintro ⟨y, hy, rfl⟩
    exact h.rounds_of_course hy p.reaches_zero []

end Follows

end FixedBackoff

/-! ## The layers follow the course -/

/-- An operation with a sequence of outcomes; the state is the number of calls made. -/
def sequence (outcomes : Nat → Except ε α) : Action Nat ε α :=
  Action.of fun calls => (outcomes calls, calls + 1)

/-- What is seen of a run: how many calls were made, and what the observer was told. -/
structure Watched (ε : Type) where
  calls : Nat
  told : List (Nat × ε)

namespace Watched

/-- The number of calls. -/
def part : Part (Watched ε) Nat where
  get := calls
  set calls w := { w with calls }

/-- The operation, with what is seen of it. -/
def sequence (outcomes : Nat → Except ε α) : Action (Watched ε) ε α :=
  (RelayHub.sequence outcomes).within part

/-- The observer writes down what it is told. -/
def note (number : UInt32) (e : ε) (w : Watched ε) : Watched ε :=
  { w with told := w.told ++ [(number.toNat, e)] }

theorem sequence_perform (outcomes : Nat → Except ε α) (k : Nat) (told : List (Nat × ε)) :
    (sequence outcomes).perform ⟨k, told⟩ = (outcomes k, ⟨k + 1, told⟩) := rfl

end Watched

theorem gradedTask_perform {op : Action σ ε α} (retryable : ε → Bool) (c : Counting σ) :
    (gradedTask op retryable).perform c
      = ((op.perform c.state).1.mapError (.of retryable),
          { c with state := (op.perform c.state).2 }) := by
  rw [gradedTask, Action.within, perform_of, Action.mapError, perform_of, Counting.part]
  rcases op.perform c.state with ⟨e | v, s⟩ <;> rfl

namespace FixedBackoff

variable (p : FixedBackoff) (L : TryLoop) (retryable : ε → Bool) (outcomes : Nat → Except ε α)

/-- The accounts with which a run under a policy may return. -/
def RunReturns (x : Account ε α) : Prop :=
  p.Runs L (Watched.sequence outcomes) retryable Watched.note ⟨0, []⟩
    ⟨x.answer, ⟨x.calls, x.observed⟩, x.slept⟩

/-- The accounts with which a run until success may return. -/
def RunUntilOkReturns (x : Account ε α) : Prop :=
  p.RunsUntilOk L (Watched.sequence outcomes) Watched.note ⟨0, []⟩
    ⟨x.answer, ⟨x.calls, x.observed⟩, x.slept⟩

/-- The number of a retry, as the layer that counts has it. -/
def wrapping (k : Nat) : UInt32 :=
  UInt32.ofNat k

/-- The number of a retry, as the loop around has it. -/
def saturating (k : Nat) : UInt32 :=
  UInt32.ofNat (min k (UInt32.size - 1))

theorem toNat_wrapping {k : Nat} (h : k < UInt32.size) : (wrapping k).toNat = k :=
  UInt32.toNat_ofNat_of_lt' h

theorem toNat_saturating (k : Nat) : (saturating k).toNat = min k (UInt32.size - 1) := by
  have hlt : min k (UInt32.size - 1) < UInt32.size := by
    have hsize : 0 < UInt32.size := by decide
    omega
  exact UInt32.toNat_ofNat_of_lt' hlt

theorem wrapping_succ (k : Nat) : wrapping k + 1 = wrapping (k + 1) := by
  rw [wrapping, wrapping, UInt32.ofNat_add]
  rfl

theorem saturated_saturating (k : Nat) : saturated (saturating k) = saturating (k + 1) := by
  rw [saturated, toNat_saturating, saturating]
  congr 1
  omega

variable {p L retryable outcomes}

/-- The layer that sorts and numbers has the outcomes of the operation. -/
theorem follows_classified : Follows (gradedTask (Watched.sequence outcomes) retryable)
    (numbered Watched.note) (fun k => (wrapping k).toNat) retryable outcomes
    (fun k told => ⟨⟨k, told⟩, wrapping k⟩) (fun k told => ⟨⟨k, told⟩, wrapping (k - 1)⟩) where
  performs k told := by
    rw [gradedTask_perform, Watched.sequence_perform]
    rfl
  tells k told e wait := by
    simp only [numbered, Watched.note, Nat.add_sub_cancel, wrapping_succ]

/-- So does the same layer inside the loop around, where each error is told with the number
that the outer loop has for it. -/
theorem follows_renumbered :
    Follows (gradedTask ((Watched.sequence outcomes).within Counting.part) fun _ => true)
      (numbered (renumbered Watched.note)) (fun k => (saturating k).toNat) (fun _ => true) outcomes
      (fun k told => ⟨⟨⟨k, told⟩, saturating k⟩, wrapping k⟩)
      (fun k told => ⟨⟨⟨k, told⟩, saturating (k - 1)⟩, wrapping (k - 1)⟩) where
  performs k told := by
    rw [gradedTask_perform]
    rfl
  tells k told e wait := by
    simp only [numbered, renumbered, Watched.note, Nat.add_sub_cancel, wrapping_succ,
      saturated_saturating]

theorem runReturns_iff (hL : L.Documented) {x : Account ε α} :
    p.RunReturns L retryable outcomes x ↔
      RetryCourse (fun k => (wrapping k).toNat) (p.Ends retryable outcomes) p.delay outcomes 0
        x := by
  constructor
  · rintro ⟨retries, hreturns⟩
    obtain ⟨y, hy, heq⟩ := (follows_classified.returns_iff hL).1 hreturns
    obtain ⟨answer, calls, observed, slept⟩ := x
    cases heq
    exact hy
  · exact fun hx => ⟨_, (follows_classified.returns_iff hL).2 ⟨x, hx, rfl⟩⟩

/-- Without a limit and with every error transient, only a success comes back. -/
theorem classified_iff (hL : L.Documented) {x : Ending (Counting (Watched ε)) ε α} :
    L.Classified (.forever p.delay) ((Watched.sequence outcomes).within Counting.part)
        (fun _ => true) (renumbered Watched.note) ⟨⟨0, []⟩, 0⟩ x ↔
      ∃ y, RetryCourse (fun k => (saturating k).toNat) (Succeeds outcomes) p.delay outcomes 0 y ∧
        x = ⟨y.answer, ⟨⟨y.calls, y.observed⟩, saturating (y.calls - 1)⟩, y.slept⟩ := by
  have hreturns (z : Ending (Counting (Counting (Watched ε))) ε α) :=
    (@follows_renumbered ε α outcomes).returns_iff (p := forever p.delay) hL (x := z)
  rw [ends_forever] at hreturns
  constructor
  · rintro ⟨retries, hx⟩
    obtain ⟨y, hy, heq⟩ := (hreturns _).1 hx
    obtain ⟨answer, state, slept⟩ := x
    cases heq
    exact ⟨y, hy, rfl⟩
  · rintro ⟨y, hy, rfl⟩
    exact ⟨_, (hreturns _).2 ⟨y, hy, rfl⟩⟩

/-- The loop around the loop goes round once. -/
theorem insists_iff (hL : L.Documented) {x : Ending (Counting (Watched ε)) ε α} :
    p.Insists L (Watched.sequence outcomes) Watched.note ⟨⟨0, []⟩, 0⟩ x ↔
      ∃ y, RetryCourse (fun k => (saturating k).toNat) (Succeeds outcomes) p.delay outcomes 0 y ∧
        x = ⟨y.answer, ⟨⟨y.calls, y.observed⟩, saturating (y.calls - 1)⟩, y.slept⟩ := by
  have hsucceeds {y : Account ε α}
      (hy : RetryCourse (fun k => (saturating k).toNat) (Succeeds outcomes) p.delay outcomes 0 y) :
      ∃ v, y.answer = .ok v := by
    obtain ⟨n, ⟨v, hv⟩, hanswer⟩ := hy.answer
    exact ⟨v, hanswer.trans hv⟩
  constructor
  · intro hx
    cases hx with
    | returns h _ => exact (classified_iff hL).1 h
    | again h error _ =>
      obtain ⟨y, hy, rfl⟩ := (classified_iff hL).1 h
      obtain ⟨v, hv⟩ := hsucceeds hy
      cases hv.symm.trans error
  · rintro ⟨y, hy, rfl⟩
    obtain ⟨v, hv⟩ := hsucceeds hy
    exact .returns ((classified_iff hL).2 ⟨y, hy, rfl⟩) hv

theorem runUntilOkReturns_iff (hL : L.Documented) {x : Account ε α} :
    p.RunUntilOkReturns L outcomes x ↔
      RetryCourse (fun k => (saturating k).toNat) (Succeeds outcomes) p.delay outcomes 0 x := by
  constructor
  · rintro ⟨retries, hx⟩
    obtain ⟨y, hy, heq⟩ := (insists_iff hL).1 hx
    obtain ⟨answer, calls, observed, slept⟩ := x
    cases heq
    exact hy
  · exact fun hx => ⟨_, (insists_iff hL).2 ⟨x, hx, rfl⟩⟩

/-! ## The run that is cut off follows the course -/

/-- One call of a run, if it is the last. -/
theorem run_of_ends {k : Nat} (h : p.Ends retryable outcomes k) (patience : Nat) :
    (p.delaysAfter k).run retryable (sequence outcomes) patience k k
      = (⟨outcomes k, true, [], 0⟩, k + 1) := by
  have hperform : (sequence outcomes).perform k = (outcomes k, k + 1) := rfl
  unfold Delays.run
  rw [hperform]
  cases hout : outcomes k with
  | ok v => rfl
  | error e =>
    dsimp only
    cases hretryable : retryable e with
    | false => rfl
    | true =>
      rw [delaysAfter_next_of_limit ((ends_iff_of_retryable hout hretryable).1 h)]
      rfl

/-- One call of a run, if it is not the last and there is patience left. -/
theorem run_of_not_ends {k : Nat} {e : ε} (h : ¬ p.Ends retryable outcomes k) (hk : p.Reaches k)
    (he : outcomes k = .error e) (patience : Nat) :
    (p.delaysAfter k).run retryable (sequence outcomes) (patience + 1) k k
      = (((p.delaysAfter (k + 1)).run retryable (sequence outcomes) patience (k + 1)
            (k + 1)).1.after (k + 1) e p.delay,
          ((p.delaysAfter (k + 1)).run retryable (sequence outcomes) patience (k + 1)
            (k + 1)).2) := by
  have hperform : (sequence outcomes).perform k = (.error e, k + 1) := by rw [← he]; rfl
  obtain ⟨e', he', hretryable, hmore⟩ := of_not_ends h
  obtain rfl := Except.error.inj (he.symm.trans he')
  rw [Delays.run, hperform]
  dsimp only
  rw [hretryable, delaysAfter_next hk hmore]
  rfl

/-- A run without patience comes to its end only with the first call. -/
theorem run_cut_off {k : Nat} (h : ¬ p.Ends retryable outcomes k) (hk : p.Reaches k) :
    ((p.delaysAfter k).run retryable (sequence outcomes) 0 k k).1.ended = false := by
  obtain ⟨e, he, hretryable, hmore⟩ := of_not_ends h
  have hperform : (sequence outcomes).perform k = (.error e, k + 1) := by rw [← he]; rfl
  rw [Delays.run, hperform]
  dsimp only
  rw [hretryable, delaysAfter_next hk hmore]
  rfl

/-- The account that a run gives, if it was not cut off. -/
def RunGives (run : Nat → StateM Nat (Retried ε α)) (x : Account ε α) : Prop :=
  ∃ patience, run patience 0 = (⟨x.answer, true, x.observed, x.slept⟩, x.calls)

/-- A run that has the patience comes to its end. -/
theorem run_of_course {k : Nat} {x : Account ε α}
    (hx : RetryCourse id (p.Ends retryable outcomes) p.delay outcomes k x) (hk : p.Reaches k)
    {patience : Nat} (hpatience : x.observed.length ≤ patience) :
    (p.delaysAfter k).run retryable (sequence outcomes) patience k k
      = (⟨x.answer, true, x.observed, x.slept⟩, x.calls) := by
  induction hx generalizing patience with
  | ends h => exact run_of_ends h patience
  | @goesOn k e x h error rest ih =>
    obtain ⟨-, -, -, hmore⟩ := of_not_ends h
    cases patience with
    | zero => cases hpatience
    | succ patience =>
      rw [run_of_not_ends h hk error, ih (hk.succ hmore) (Nat.le_of_succ_le_succ hpatience)]
      rfl

theorem course_of_run {k calls patience : Nat} {r : Retried ε α} (hk : p.Reaches k)
    (hr : (p.delaysAfter k).run retryable (sequence outcomes) patience k k = (r, calls))
    (hended : r.ended = true) :
    RetryCourse id (p.Ends retryable outcomes) p.delay outcomes k
      ⟨r.last, calls, r.observed, r.elapsed⟩ := by
  induction patience generalizing k calls r with
  | zero =>
    by_cases h : p.Ends retryable outcomes k
    · cases (run_of_ends h 0).symm.trans hr
      exact .ends h
    · have hcut := run_cut_off h hk
      rw [hr] at hcut
      cases hcut.symm.trans hended
  | succ patience ih =>
    by_cases h : p.Ends retryable outcomes k
    · cases (run_of_ends h (patience + 1)).symm.trans hr
      exact .ends h
    · obtain ⟨e, he, -, hmore⟩ := of_not_ends h
      cases (run_of_not_ends h hk he patience).symm.trans hr
      exact .goesOn h he (ih (hk.succ hmore) rfl hended)

theorem runGives_iff {x : Account ε α} :
    RunGives (p.run retryable (sequence outcomes)) x ↔
      RetryCourse id (p.Ends retryable outcomes) p.delay outcomes 0 x := by
  rw [RunGives]
  simp only [FixedBackoff.run, ← delaysAfter_zero]
  constructor
  · rintro ⟨patience, hrun⟩
    exact course_of_run p.reaches_zero hrun rfl
  · exact fun hx => ⟨_, run_of_course hx p.reaches_zero (Nat.le_refl _)⟩

/-! ## The law -/

theorem exists_error_of_not_ends {i : Nat} (h : ¬ p.Ends retryable outcomes i) :
    ∃ e, outcomes i = .error e := by
  obtain ⟨e, he, -⟩ := of_not_ends h
  exact ⟨e, he⟩

theorem exists_error_of_not_succeeds {i : Nat} (h : ¬ Succeeds outcomes i) :
    ∃ e, outcomes i = .error e := by
  cases hi : outcomes i with
  | ok v => exact absurd ⟨v, hi⟩ h
  | error e => exact ⟨e, rfl⟩

/-- Whatever a policy, an operation and a way to sort its errors: a run keeps the law for
the calls that can be the last under the policy, and a run until success for the calls that
succeed, whatever limit the policy has. The layers do so over every loop that does what is
documented, and the runs that are cut off do if their patience lasts. -/
theorem retry_law (hL : L.Documented) (p : FixedBackoff) (retryable : ε → Bool)
    (outcomes : Nat → Except ε α) :
    KeepsLaw (p.Ends retryable outcomes) p.delay outcomes (p.RunReturns L retryable outcomes) ∧
      KeepsLaw (Succeeds outcomes) p.delay outcomes (p.RunUntilOkReturns L outcomes) ∧
      KeepsLaw (p.Ends retryable outcomes) p.delay outcomes
        (RunGives (p.run retryable (sequence outcomes))) ∧
      KeepsLaw (Succeeds outcomes) p.delay outcomes
        (RunGives (p.runUntilOk (sequence outcomes))) := by
  have hwrapping (i : Nat) (hi : i < UInt32.size) : (wrapping i).toNat = i := toNat_wrapping hi
  have hsaturating (i : Nat) (hi : i < UInt32.size) : (saturating i).toNat = i := by
    rw [toNat_saturating]
    omega
  have hforever (x : Account ε α) : RunGives (p.runUntilOk (sequence outcomes)) x ↔
      RetryCourse id (Succeeds outcomes) p.delay outcomes 0 x := by
    rw [← ends_forever p.delay outcomes]
    exact runGives_iff (p := forever p.delay)
  refine ⟨?_, ?_, ?_, ?_⟩
  · exact keepsLaw_of_course hwrapping (fun _ => exists_error_of_not_ends)
      fun _ => runReturns_iff hL
  · exact keepsLaw_of_course hsaturating (fun _ => exists_error_of_not_succeeds)
      fun _ => runUntilOkReturns_iff hL
  · exact keepsLaw_of_course (fun _ _ => rfl) (fun _ => exists_error_of_not_ends)
      fun _ => runGives_iff
  · exact keepsLaw_of_course (fun _ _ => rfl) (fun _ => exists_error_of_not_succeeds) hforever

/-- Four failures, and then successes. -/
def fourFailures (i : Nat) : Except Nat Nat :=
  if i < 4 then .error i else .ok i

/-- Under a limit of two retries a run answers the third failure, and the run until
success goes on to the fifth call. -/
theorem retry_law_fourFailures :
    TryLoop.plain.Documented ∧
      (∃ x, (limited 10 2).RunReturns .plain (fun _ => true) fourFailures x ∧
        x.Tells fourFailures 10 2) ∧
      ∃ x, (limited 10 2).RunUntilOkReturns .plain fourFailures x ∧ x.Tells fourFailures 10 4 := by
  obtain ⟨hrun, huntil, -⟩ :=
    retry_law TryLoop.plain_documented (limited 10 2) (fun _ => true) fourFailures
  have hfails (i : Nat) (hi : i < 4) : ¬ Succeeds fourFailures i := by
    rintro ⟨v, hv⟩
    rw [fourFailures, if_pos hi] at hv
    cases hv
  have hthird : IsLeast {i | (limited 10 2).Ends (fun _ => true) fourFailures i} 2 := by
    refine ⟨.inr (.inr rfl), ?_⟩
    rintro i (hok | ⟨e, -, ⟨⟩⟩ | hlimit)
    · refine Nat.le_of_not_lt fun hi => hfails i (by omega) hok
    · cases hlimit
      exact Nat.le_refl _
  have hfifth : IsLeast {i | Succeeds fourFailures i} 4 :=
    ⟨⟨4, rfl⟩, fun i hi => Nat.le_of_not_lt fun hlt => hfails i hlt hi⟩
  have htwo : 2 < UInt32.size := by decide
  have hfour : 4 < UInt32.size := by decide
  obtain ⟨x, hx⟩ := hrun.returns hthird htwo
  obtain ⟨y, hy⟩ := huntil.returns hfifth hfour
  exact ⟨TryLoop.plain_documented, ⟨x, hx, hrun.tells hthird htwo hx⟩,
    y, hy, huntil.tells hfifth hfour hy⟩

/-! ## Operations on a state -/

/-- A run that has the patience ends with the first call that can be the last. -/
theorem run_of_isLeast {retries patience : Nat}
    (hleast : IsLeast {i | p.Ends retryable outcomes i} retries) (hpatience : retries ≤ patience) :
    ∃ r, p.run retryable (sequence outcomes) patience 0 = (r, retries + 1) ∧
      r.last = outcomes retries := by
  have hlast : p.Ends retryable outcomes (0 + retries) := by rw [Nat.zero_add]; exact hleast.1
  obtain ⟨x, hx⟩ : ∃ x, RetryCourse id (p.Ends retryable outcomes) p.delay outcomes 0 x :=
    RetryCourse.exists_of_last (fun _ => exists_error_of_not_ends) hlast
  obtain ⟨hanswer, hcalls, hobserved, -⟩ := hx.tells_of_isLeast hleast
  have hlength : x.observed.length = retries := by
    simpa using congrArg List.length hobserved
  have hrun := run_of_course hx p.reaches_zero (hlength.symm ▸ hpatience)
  rw [delaysAfter_zero] at hrun
  exact ⟨_, by rw [FixedBackoff.run, hrun, hcalls], hanswer⟩

end FixedBackoff

/-- An operation whose outcomes are known, with the states between its calls, runs as their
sequence does. -/
theorem Delays.run_of_sequence {retryable : ε → Bool} {outcomes : Nat → Except ε α}
    {op : Action σ ε α} {state : Nat → σ}
    (h : ∀ k, op.perform (state k) = (outcomes k, state (k + 1))) (delays : Delays)
    (patience retries k : Nat) :
    delays.run retryable op patience retries (state k)
      = ((delays.run retryable (sequence outcomes) patience retries k).1,
          state (delays.run retryable (sequence outcomes) patience retries k).2) := by
  have hperform (k : Nat) : (sequence outcomes).perform k = (outcomes k, k + 1) := rfl
  induction patience generalizing delays retries k with
  | zero =>
    rw [Delays.run, Delays.run, h k, hperform k]
    cases outcomes k with
    | ok v => rfl
    | error e =>
      dsimp only
      split
      · rfl
      · rcases delays.next with ⟨_ | wait, later⟩ <;> rfl
  | succ patience ih =>
    rw [Delays.run, Delays.run, h k, hperform k]
    cases outcomes k with
    | ok v => rfl
    | error e =>
      dsimp only
      split
      · rfl
      · rcases delays.next with ⟨_ | wait, later⟩
        · rfl
        · dsimp only
          rw [ih later (retries + 1) (k + 1)]
          rfl

end RelayHub
