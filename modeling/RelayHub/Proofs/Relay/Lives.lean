/-
What the journal of a loop shows, put together from what its parts show.

A journal is made of the courses of requests and of deeds that have nothing to
do with requests. So what holds of every course and is kept when journals are
put together holds of every loop, wherever it was stopped: `Composes` names the
parts, `of_lived` puts them together. The other half of a journal, that each of
its answers is one that the world gave, is `Site.answered_of_mem_lives`.
-/
import RelayHub.Proofs.Relay.History
import RelayHub.Proofs.Relay.Once

set_option autoImplicit false

namespace RelayHub

open Script Deed

namespace Relay

variable {relay : Relay} {P : List Deed → Prop} {past : List Deed}

/-! ## Parts of a journal -/

/-- A property of journals that holds of a whole if it holds of the parts, and
that holds of every course of a request. -/
structure Composes (relay : Relay) (P : List Deed → Prop) : Prop where
  nil : P []
  append {past past' : List Deed} : P past → P past' → P (past ++ past')
  quiet {t : Deed} : Quiet t → P [t]
  course {q : CrossChainRequest} {past : List Deed} {rest : RelayScript Unit} :
    Course relay q past rest → P past

namespace Composes

variable (h : Composes relay P)
include h

theorem of_quiet (hpast : ∀ t ∈ past, Quiet t) : P past := by
  induction past with
  | nil => exact h.nil
  | cons t past ih =>
    obtain ⟨ht, hpast⟩ := List.forall_mem_cons.1 hpast
    exact h.append (h.quiet ht) (ih hpast)

theorem of_relayEnvelope {b : RawBlock} {e : Envelope} {rest : RelayScript Unit}
    (hleads : Leads (relay.relayEnvelope b e) past rest) : P past := by
  cases passage_of_leads hleads with
  | malformed _ hpast => exact h.of_quiet (quiet_of_count hpast)
  | other _ => exact h.nil
  | request _ hcourse => exact h.course hcourse

theorem of_each {b : RawBlock} {envelopes : List Envelope} {rest : RelayScript Unit}
    (hleads : Leads (each envelopes (relay.relayEnvelope b)) past rest) : P past := by
  obtain ⟨finished, parts, hparts, hend⟩ := of_leads_each hleads
  have hfinished : P parts.flatten := by
    clear hend
    induction hparts with
    | nil => exact h.nil
    | cons hpart _ ih => exact h.append (h.of_relayEnvelope hpart) ih
  rcases hend with ⟨-, rfl, -⟩ | ⟨e, more, last, a, -, rfl, hlast, -, -⟩
  · exact hfinished
  · exact h.append hfinished (h.of_relayEnvelope hlast)

theorem of_processBlock {b : RawBlock} {rest : RelayScript Unit}
    (hleads : Leads (relay.processBlock b) past rest) : P past := by
  have hstoring : ∀ {tries : List Deed} {block : StoredBlock},
      Refusals (.storeBlock block) succeeded tries → ∀ t ∈ tries, Quiet t :=
    fun htries t ht => by simp [Quiet, op_of_refusals htries t ht]
  rcases of_leads_processBlock hleads with ⟨a, ha, -, -⟩ | ⟨before, after, rfl, hbefore, hafter⟩
  · exact h.of_each ha
  · refine h.append (h.of_each hbefore) ?_
    rcases of_leads_persist hafter with ⟨-, htries⟩ | ⟨tries, after, rfl, htries, hcount⟩
    · exact h.of_quiet (hstoring htries)
    · refine h.of_quiet (List.forall_mem_append.2 ⟨hstoring htries, ?_⟩)
      exact List.forall_mem_cons.2 ⟨by simp [Quiet], quiet_of_count hcount⟩

/-- What is kept by the turns of a loop: the property holds of everything behind
it, but for the block it is processing, which has its own journal. -/
def Behind (relay : Relay) (P : List Deed → Prop) (past : List Deed) : LoopState → Prop
  | .looking _ | .stopped => P past
  | .fetching work => P past ∧ (work = Cursor.new.next ∨ (∃ n, work = Cursor.query n) ∨
      ∃ b, work = .done b)
  | .processing _ work => ∃ before b part, past = before ++ part ∧ P before ∧
      Leads (relay.processBlock b) part work

theorem behind_of_lived {loop : LoopState} (hlived : Lived relay past loop) :
    Behind relay P past loop := by
  induction hlived with
  | begun => exact h.nil
  | moved _ next ih =>
    cases next with
    | rests => simpa using ih
    | looks cursor =>
      refine ⟨by simpa [Behind] using ih, ?_⟩
      obtain ⟨_ | number⟩ := cursor
      · exact .inl rfl
      · exact .inr (.inl ⟨number + 1, rfl⟩)
    | stopsLooking => simpa [Behind] using ih
    | stopsFetching => simpa [Behind] using ih.1
    -- A fetch only asks where to start and for a block.
    | fetches htries =>
      obtain ⟨hpast, rfl | ⟨n, rfl⟩ | ⟨b, rfl⟩⟩ := ih
      · rcases Cursor.of_tries_new htries with ⟨hop, rfl⟩ | ⟨n, rfl, rfl⟩
        · exact ⟨h.append hpast (h.quiet (by simp [Quiet, hop])), .inl rfl⟩
        · exact ⟨h.append hpast (h.quiet (by simp [Quiet])), .inr (.inl ⟨_, rfl⟩)⟩
      · rcases Cursor.of_tries_query htries with ⟨hop, rfl⟩ | ⟨b, -, rfl, rfl⟩
        · exact ⟨h.append hpast (h.quiet (by simp [Quiet, hop])), .inr (.inl ⟨n, rfl⟩)⟩
        · exact ⟨h.append hpast (h.quiet (by simp [Quiet])), .inr (.inr ⟨b, rfl⟩)⟩
      · cases htries
    | takes b => exact ⟨_, b, [], by simp, ih.1, .nil _⟩
    | works htries =>
      obtain ⟨before, b, part, rfl, hbefore, hwork⟩ := ih
      exact ⟨before, b, _, by simp, hbefore, hwork.snoc htries⟩
    | finishes =>
      obtain ⟨before, b, part, rfl, hbefore, hwork⟩ := ih
      simpa [Behind] using h.append hbefore (h.of_processBlock hwork)

/-- The property holds of the journal of every loop. -/
theorem of_lived {loop : LoopState} (hlived : Lived relay past loop) : P past := by
  have hbehind := h.behind_of_lived hlived
  cases loop with
  | looking => exact hbehind
  | fetching => exact hbehind.1
  | processing =>
    obtain ⟨before, b, part, rfl, hbefore, hwork⟩ := hbehind
    exact h.append hbefore (h.of_processBlock hwork)
  | stopped => exact hbehind

end Composes

end Relay

/-! ## Answers of the world -/

namespace Site

open LoopState

variable {σ : Type} {relay : Relay} {perform : (op : RelayOp) → StateM σ op.Answer}

/-- Every answer in a journal of a site is one that the world gave. -/
theorem answered_of_mem_lives {history : List (Happening σ)} {world : σ} {life : List Deed}
    (hlife : life ∈ (play relay perform history (opened world)).lives) :
    ∀ t ∈ life, ∃ s, (perform t.op s).1 = t.answer := by
  let P (x : Site σ) : Prop := ∀ l ∈ x.lives, ∀ t ∈ l, ∃ s, (perform t.op s).1 = t.answer
  have hall : P (play relay perform history (opened world)) := by
    refine play_invariant (by simp [P, lives, opened]) ?_
    rintro (⟨signal, turn⟩ | _ | change) - x hx
    · rcases happen_turn signal turn x with ⟨loop', -, hx'⟩ | ⟨op, loop', -, hx'⟩
      · rw [hx']
        exact hx
      · rw [hx']
        intro l hl t ht
        rcases List.mem_append.1 hl with hl | hl
        · exact hx l (List.mem_append_left _ hl) t ht
        · rw [List.mem_singleton.1 hl] at ht
          rcases List.mem_append.1 ht with ht | ht
          · exact hx x.life (List.mem_append_right _ (List.mem_singleton_self _)) t ht
          · rw [List.mem_singleton.1 ht]
            exact ⟨x.world, rfl⟩
    · intro l hl t ht
      rcases List.mem_append.1 hl with hl | hl
      · exact hx l hl t ht
      · rw [List.mem_singleton.1 hl] at ht
        cases ht
    · exact hx
  exact hall life hlife

end Site

end RelayHub
