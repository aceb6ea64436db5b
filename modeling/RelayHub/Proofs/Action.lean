/-
What actions answer, and when one action follows another.

The first part computes: what an action put together from others answers, and
the state after it. The second part is about what is seen of a state: an action
may leave it alone, or depend on nothing else. The third part compares an action
on a large state with one on a part of it. `Tracks` allows the larger one to fail where the smaller
one does not, for reasons that are excused and only if the part stays as it
was; so it carries over from the reads and writes of a store to everything that
is put together from them.
-/
import RelayHub.Action

set_option autoImplicit false

namespace RelayHub.Action

variable {σ τ ε ε' α β : Type}

/-! ## Answers -/

@[simp] theorem perform_pure (v : α) (s : σ) :
    (pure v : Action σ ε α).perform s = (.ok v, s) := rfl

@[simp] theorem perform_throw (e : ε) (s : σ) :
    (throw e : Action σ ε α).perform s = (.error e, s) := rfl

@[simp] theorem perform_of (f : σ → Except ε α × σ) (s : σ) : (of f).perform s = f s := rfl

@[simp] theorem perform_look (f : σ → Except ε α) (s : σ) : (look f).perform s = (f s, s) := rfl

@[simp] theorem perform_ofExcept (r : Except ε α) (s : σ) : (ofExcept r).perform s = (r, s) := rfl

theorem perform_bind (a : Action σ ε α) (f : α → Action σ ε β) (s : σ) :
    (a >>= f).perform s =
      match a.perform s with
      | (.ok v, s) => (f v).perform s
      | (.error e, s) => (.error e, s) := by
  simp only [perform, bind, ExceptT.bind, ExceptT.mk, ExceptT.bindCont, StateT.bind]
  rcases a s with ⟨_ | _, _⟩ <;> rfl

theorem perform_bind_ok {a : Action σ ε α} {f : α → Action σ ε β} {s s' : σ} {v : α}
    (h : a.perform s = (.ok v, s')) : (a >>= f).perform s = (f v).perform s' := by
  rw [perform_bind, h]

theorem perform_bind_error {a : Action σ ε α} {f : α → Action σ ε β} {s s' : σ} {e : ε}
    (h : a.perform s = (.error e, s')) : (a >>= f).perform s = (.error e, s') := by
  rw [perform_bind, h]

/-- What follows an action was not reached, or starts where the action ended. -/
theorem of_perform_bind {a : Action σ ε α} {f : α → Action σ ε β} {s s' : σ} {r : Except ε β}
    (h : (a >>= f).perform s = (r, s')) :
    (∃ e, a.perform s = (.error e, s') ∧ r = .error e) ∨
      ∃ v s₁, a.perform s = (.ok v, s₁) ∧ (f v).perform s₁ = (r, s') := by
  rcases hs : a.perform s with ⟨e | v, s₁⟩
  · rw [perform_bind_error hs] at h
    cases h
    exact .inl ⟨e, rfl, rfl⟩
  · rw [perform_bind_ok hs] at h
    exact .inr ⟨v, s₁, rfl, h⟩

theorem perform_mapError_ok {f : ε → ε'} {a : Action σ ε α} {s s' : σ} {v : α}
    (h : a.perform s = (.ok v, s')) : (a.mapError f).perform s = (.ok v, s') := by
  rw [mapError, perform_of, h]

theorem perform_mapError_error {f : ε → ε'} {a : Action σ ε α} {s s' : σ} {e : ε}
    (h : a.perform s = (.error e, s')) : (a.mapError f).perform s = (.error (f e), s') := by
  rw [mapError, perform_of, h]

theorem of_perform_mapError_ok {f : ε → ε'} {a : Action σ ε α} {s s' : σ} {v : α}
    (h : (a.mapError f).perform s = (.ok v, s')) : a.perform s = (.ok v, s') := by
  rcases hs : a.perform s with ⟨e | w, s₁⟩
  · rw [perform_mapError_error hs] at h
    cases h
  · rw [perform_mapError_ok hs] at h
    cases h
    rfl

/-! ## Actions that leave something alone -/

/-- An action that leaves what is seen of every state as it is. -/
def Keeps {γ : Type} (view : σ → γ) (a : Action σ ε α) : Prop :=
  ∀ ⦃s s' r⦄, a.perform s = (r, s') → view s' = view s

namespace Keeps

variable {γ : Type} {view : σ → γ}

theorem outcome {a : Action σ ε α} (ha : Keeps view a) (s : σ) :
    view (a.perform s).2 = view s :=
  ha rfl

theorem pure (v : α) : Keeps view (Pure.pure v : Action σ ε α) :=
  fun _ _ _ h => by cases h; rfl

theorem throw (e : ε) : Keeps view (MonadExcept.throw e : Action σ ε α) :=
  fun _ _ _ h => by cases h; rfl

theorem look (f : σ → Except ε α) : Keeps view (Action.look f) :=
  fun _ _ _ h => by cases h; rfl

theorem ofExcept (r : Except ε α) : Keeps view (Action.ofExcept r : Action σ ε α) :=
  fun _ _ _ h => by cases h; rfl

theorem within (p : Part σ τ) (hp : ∀ t s, view (p.set t s) = view s) (a : Action τ ε α) :
    Keeps view (a.within p) :=
  fun s _ _ h => by cases h; exact hp _ s

theorem mapError {f : ε → ε'} {a : Action σ ε α} (ha : Keeps view a) :
    Keeps view (a.mapError f) := by
  intro s s' r h
  rcases hs : a.perform s with ⟨_ | v, s₁⟩
  · rw [perform_mapError_error hs] at h
    cases h
    exact ha hs
  · rw [perform_mapError_ok hs] at h
    cases h
    exact ha hs

theorem bind {a : Action σ ε α} {f : α → Action σ ε β} (ha : Keeps view a)
    (hf : ∀ v, Keeps view (f v)) : Keeps view (a >>= f) := by
  intro s s' r h
  rcases of_perform_bind h with ⟨e, hs, -⟩ | ⟨v, s₁, hs, hrest⟩
  · exact ha hs
  · rw [hf v hrest, ha hs]

end Keeps

/-! ## Actions that depend on what is seen alone -/

/-- An action whose answer, and what is seen of the state after it, are decided by
what is seen of the state before. -/
def Determined {γ : Type} (view : σ → γ) (a : Action σ ε α) : Prop :=
  ∀ ⦃s t⦄, view s = view t →
    (a.perform s).1 = (a.perform t).1 ∧ view (a.perform s).2 = view (a.perform t).2

namespace Determined

variable {γ : Type} {view : σ → γ}

theorem pure (v : α) : Determined view (Pure.pure v : Action σ ε α) :=
  fun _ _ h => ⟨rfl, h⟩

theorem throw (e : ε) : Determined view (MonadExcept.throw e : Action σ ε α) :=
  fun _ _ h => ⟨rfl, h⟩

theorem ofExcept (r : Except ε α) : Determined view (Action.ofExcept r : Action σ ε α) :=
  fun _ _ h => ⟨rfl, h⟩

theorem look {f : σ → Except ε α} (hf : ∀ s t, view s = view t → f s = f t) :
    Determined view (Action.look f) :=
  fun s t h => ⟨hf s t h, h⟩

theorem mapError {f : ε → ε'} {a : Action σ ε α} (ha : Determined view a) :
    Determined view (a.mapError f) := by
  intro s t h
  obtain ⟨hanswer, hview⟩ := ha h
  rcases hs : a.perform s with ⟨_ | v, s'⟩ <;> rcases ht : a.perform t with ⟨_ | w, t'⟩ <;>
    rw [hs, ht] at hanswer hview <;> cases hanswer
  · rw [perform_mapError_error hs, perform_mapError_error ht]
    exact ⟨rfl, hview⟩
  · rw [perform_mapError_ok hs, perform_mapError_ok ht]
    exact ⟨rfl, hview⟩

theorem bind {a : Action σ ε α} {f : α → Action σ ε β} (ha : Determined view a)
    (hf : ∀ v, Determined view (f v)) : Determined view (a >>= f) := by
  intro s t h
  obtain ⟨hanswer, hview⟩ := ha h
  rcases hs : a.perform s with ⟨_ | v, s'⟩ <;> rcases ht : a.perform t with ⟨_ | w, t'⟩ <;>
    rw [hs, ht] at hanswer hview <;> cases hanswer
  · rw [perform_bind_error hs, perform_bind_error ht]
    exact ⟨rfl, hview⟩
  · rw [perform_bind_ok hs, perform_bind_ok ht]
    exact hf v hview

end Determined

/-! ## One action and another on a part of its state -/

/-- An action that does to what is seen of its state what another action does,
or fails for an excused reason and changes nothing that is seen. -/
def Tracks (view : σ → τ) (excused : ε → Prop) (a : Action σ ε α) (m : Action τ ε α) : Prop :=
  ∀ ⦃s s' r⦄, a.perform s = (r, s') →
    (∃ e, excused e ∧ r = .error e ∧ view s' = view s) ∨ m.perform (view s) = (r, view s')

namespace Tracks

variable {view : σ → τ} {excused : ε → Prop}

theorem outcome {a : Action σ ε α} {m : Action τ ε α} (ha : Tracks view excused a m) (s : σ) :
    (∃ e, excused e ∧ (a.perform s).1 = .error e ∧ view (a.perform s).2 = view s) ∨
      m.perform (view s) = ((a.perform s).1, view (a.perform s).2) :=
  ha rfl

/-- If nothing is excused, the answers are the same. -/
theorem answer {a : Action σ ε α} {m : Action τ ε α} (ha : Tracks view excused a m)
    (hnever : ∀ e, ¬ excused e) (s : σ) : (a.perform s).1 = (m.perform (view s)).1 := by
  rcases ha.outcome s with ⟨e, he, -, -⟩ | hdone
  · exact absurd he (hnever e)
  · rw [hdone]

/-- What is excused may be more than that, or only what does happen. -/
theorem imp {excused' : ε → Prop} {a : Action σ ε α} {m : Action τ ε α}
    (ha : Tracks view excused a m)
    (hexcused : ∀ s e, (a.perform s).1 = .error e → excused e → excused' e) :
    Tracks view excused' a m := by
  intro s s' r h
  rcases ha h with ⟨e, he, rfl, hkept⟩ | hm
  · exact .inl ⟨e, hexcused s e (by rw [h]) he, rfl, hkept⟩
  · exact .inr hm

theorem pure (v : α) : Tracks view excused (Pure.pure v) (Pure.pure v) :=
  fun _ _ _ h => by cases h; exact .inr rfl

theorem throw (e : ε) :
    Tracks view excused (MonadExcept.throw e : Action σ ε α) (MonadExcept.throw e) :=
  fun _ _ _ h => by cases h; exact .inr rfl

theorem ofExcept (r : Except ε α) :
    Tracks view excused (Action.ofExcept r) (Action.ofExcept r) :=
  fun _ _ _ h => by cases h; exact .inr rfl

theorem mapError {excused' : ε' → Prop} {f : ε → ε'} {a : Action σ ε α} {m : Action τ ε α}
    (ha : Tracks view excused a m) (hf : ∀ e, excused e → excused' (f e)) :
    Tracks view excused' (a.mapError f) (m.mapError f) := by
  intro s s' r h
  rcases hs : a.perform s with ⟨e | v, s₁⟩
  · rw [perform_mapError_error hs] at h
    cases h
    rcases ha hs with ⟨_, he, ⟨⟩, hkept⟩ | hm
    · exact .inl ⟨f e, hf e he, rfl, hkept⟩
    · exact .inr (perform_mapError_error hm)
  · rw [perform_mapError_ok hs] at h
    cases h
    rcases ha hs with ⟨_, -, ⟨⟩, -⟩ | hm
    exact .inr (perform_mapError_ok hm)

/-- What is done after an action that changes nothing may fail as well. -/
theorem bind {a : Action σ ε α} {m : Action τ ε α} {f : α → Action σ ε β} {g : α → Action τ ε β}
    (ha : Tracks view excused a m) (hm : Keeps id m) (hf : ∀ v, Tracks view excused (f v) (g v)) :
    Tracks view excused (a >>= f) (m >>= g) := by
  intro s s' r h
  rcases of_perform_bind h with ⟨e, hs, rfl⟩ | ⟨v, s₁, hs, hrest⟩
  · rcases ha hs with ⟨_, he, ⟨⟩, hkept⟩ | hfail
    · exact .inl ⟨e, he, rfl, hkept⟩
    · exact .inr (perform_bind_error hfail)
  · rcases ha hs with ⟨_, -, ⟨⟩, -⟩ | hok
    -- What is seen is as it was, so what follows is tracked from the same place.
    have hview : view s₁ = view s := hm hok
    rcases hf v hrest with ⟨e, he, rfl, hkept⟩ | hdone
    · exact .inl ⟨e, he, rfl, hkept.trans hview⟩
    · exact .inr (by rw [perform_bind_ok hok]; exact hdone)

/-- What is worked out from an answer cannot fail. -/
theorem map {a : Action σ ε α} {m : Action τ ε α} (ha : Tracks view excused a m) (f : α → β) :
    Tracks view excused (a >>= fun v => Pure.pure (f v)) (m >>= fun v => Pure.pure (f v)) := by
  intro s s' r h
  rcases of_perform_bind h with ⟨e, hs, rfl⟩ | ⟨v, s₁, hs, ⟨⟩⟩
  · rcases ha hs with ⟨_, he, ⟨⟩, hkept⟩ | hfail
    · exact .inl ⟨e, he, rfl, hkept⟩
    · exact .inr (perform_bind_error hfail)
  · rcases ha hs with ⟨_, -, ⟨⟩, -⟩ | hok
    exact .inr (by rw [perform_bind_ok hok]; rfl)

end Tracks

end RelayHub.Action
