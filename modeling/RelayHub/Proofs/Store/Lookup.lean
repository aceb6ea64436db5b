/-
What is found by number and by hash.

If numbers and hashes go together, a block store is a map whose blocks are
linked by their hashes, however late or often they are stored. If a number is
stored again with another hash, the old hash still leads to the number: what is
found by it is then the new block, and so is what a successor of the old one is
linked from.
-/
import RelayHub.Proofs.Store.Calls

set_option autoImplicit false

namespace RelayHub

open RelayHub.Action BlockStore

variable {σ : Type}

/-! ## Calls that all end well -/

namespace BlockStore

theorem run_calls (store : BlockStore σ) (calls : List StoreCall) (s : σ) :
    (store.run calls s).1.map Answered.call = calls := by
  induction calls generalizing s with
  | nil => rfl
  | cons c calls ih =>
    rcases hrun : store.run (c :: calls) s with ⟨answers, s'⟩
    obtain ⟨r, s₁, rest, -, hrest, rfl⟩ := run_cons hrun
    have htail := ih s₁
    rw [hrest] at htail
    rw [List.map_cons, htail]

/-- If no call fails, all blocks are stored. -/
theorem stored_of_ok {answers : List Answered} (hok : ∀ a ∈ answers, ∃ v, a.answer = .ok v) :
    stored answers = (answers.map Answered.call).flatMap StoreCall.stores := by
  induction answers with
  | nil => rfl
  | cons a answers ih =>
    obtain ⟨⟨v, hv⟩, hrest⟩ := List.forall_mem_cons.1 hok
    have hstored : a.stored = a.call.stores := by
      rw [Answered.stored, hv]
    rw [stored, List.flatMap_cons, List.map_cons, List.flatMap_cons, hstored]
    exact congrArg _ (ih hrest)

theorem stores_flatMap (bs : List StoredBlock) :
    (bs.map StoreCall.storeBlock).flatMap StoreCall.stores = bs := by
  induction bs with
  | nil => rfl
  | cons b bs ih =>
    rw [List.map_cons, List.flatMap_cons, ih]
    rfl

/-! ## Numbers and hashes that go together -/

/-- What is found in a store that some blocks were stored in: each as it was last
stored and linked to its successor, by its number and by its hash. -/
structure FindsLinked (b : Backend σ) (own : ChainId) (bs : List StoredBlock) (s : σ) : Prop where
  byNumber (n : UInt64) : (((ofBackend own b).byNumber own n).perform s).1 = .ok (held bs n)
  byHash (h : String) : (((ofBackend own b).byHash own h).perform s).1
    = .ok ((lastWith bs h).bind fun x => held bs x.number)
  latest : ∃ top, IsTop bs top ∧ (((ofBackend own b).latest own).perform s).1 = .ok top

theorem findsLinked_of_sound {b : Backend σ} {entries : σ → ByteMap} (hb : b.Faithful entries)
    (hreads : b.Readable) {own : ChainId} {bs : List StoredBlock} (hbs : Unforked bs) {s : σ}
    (hs : Sound own bs (entries s)) : FindsLinked b own bs s := by
  have hget := hb.reads hreads
  have hnever : ∀ e, ¬ StoreError.CausedBy (fun _ => False) e := by
    rintro e ⟨_, hfalse, -⟩
    exact hfalse
  have hblocks := Archive.ofStored_blocks hbs
  have hnumber : ∀ n, ((readBlock ByteMap.backend own n).perform (entries s)).1
      = .ok (held bs n) := by
    intro n
    rw [Archive.readBlock_perform hs.archive n, hblocks]
  refine ⟨?_, ?_, _, Archive.ofStored_latest bs, ?_⟩
  · intro n
    exact ((readBlock_tracks hget own n).answer hnever s).trans (hnumber n)
  · intro h
    refine ((readByHash_tracks hget own h).answer hnever s).trans ?_
    rw [readByHash, perform_bind_ok (Archive.readNumber_perform hs.archive h),
      Archive.ofStored_numbers]
    cases lastWith bs h with
    | none => rfl
    | some x => exact hnumber x.number
  · refine ((readLatest_tracks hget own).answer hnever s).trans ?_
    rw [Archive.readLatest_perform hs.archive]

/-- Blocks whose numbers and hashes go together can be stored in any order and as
often as one likes. -/
theorem stored_blocks_are_linked {b : Backend σ} {entries : σ → ByteMap} (hb : b.Faithful entries)
    (hreads : b.Readable) {own : ChainId} {bs : List StoredBlock} (hbs : Unforked bs)
    (hchain : ∀ x ∈ bs, x.chain = own) (hfits : ∀ x ∈ bs, x.Fits) {s₀ s : σ}
    (hempty : entries s₀ = .empty) {answers : List Answered}
    (h : (ofBackend own b).run (bs.map .storeBlock) s₀ = (answers, s))
    (hsteady : ∀ a ∈ answers, ∀ cause, a.answer ≠ .error (.database cause)) :
    (∀ a ∈ answers, ∃ v, a.answer = .ok v) ∧ FindsLinked b own bs s := by
  have hcalls : ∀ c ∈ bs.map StoreCall.storeBlock, c.Fits own := by
    intro c hc
    obtain ⟨x, hx, rfl⟩ := List.mem_map.1 hc
    exact ⟨hchain x hx, hfits x hx⟩
  obtain ⟨hs, herrors⟩ := sound_run hb hcalls (sound_of_empty own hempty) h
  -- Only the backend could have failed.
  have hok : ∀ a ∈ answers, ∃ v, a.answer = .ok v := by
    intro a ha
    rcases hanswer : a.answer with e | v
    · obtain ⟨cause, -, rfl⟩ := herrors a ha e hanswer
      exact absurd hanswer (hsteady a ha cause)
    · exact ⟨v, rfl⟩
  have hstored : stored answers = bs := by
    have hasked := run_calls (ofBackend own b) (bs.map .storeBlock) s₀
    rw [h] at hasked
    rw [stored_of_ok hok, hasked, stores_flatMap]
  rw [List.nil_append, hstored] at hs
  exact ⟨hok, findsLinked_of_sound hb hreads hbs hs⟩

/-- Three blocks, of which the second is stored before the first and once more
after the third, and a fork. -/
def shuffledBlocks : List StoredBlock :=
  [plainBlock 2 "h1" "h2", plainBlock 1 "" "h1", plainBlock 3 "h2" "h3", plainBlock 2 "h1" "h2",
    plainBlock 4 "h2" "h4"]

/-- The first block is linked when the second one is stored again, and the second
one to the third, which is the first of its successors. -/
theorem shuffledBlocks_are_linked :
    held shuffledBlocks 1 = some { plainBlock 1 "" "h1" with nextHash := some "h2" } ∧
      held shuffledBlocks 2 = some { plainBlock 2 "h1" "h2" with nextHash := some "h3" } ∧
      FindsLinked ByteMap.backend ⟨"A"⟩ shuffledBlocks
        ((inMemory ⟨"A"⟩).run (shuffledBlocks.map .storeBlock) .empty).2 := by
  have hunlinked : ∀ x ∈ shuffledBlocks, x.nextHash = none := by decide
  have hapart : ∀ x ∈ shuffledBlocks, x.previousHash ≠ x.hash := by decide
  have hagree : ∀ x ∈ shuffledBlocks, ∀ y ∈ shuffledBlocks, x.number = y.number ↔ x.hash = y.hash := by
    decide
  have hunforked : Unforked shuffledBlocks :=
    ⟨fun {x} => hunlinked x, fun {x} => hapart x, fun {x y} hx hy => hagree x hx y hy⟩
  have hfits : ∀ x ∈ shuffledBlocks, x.Fits := by
    intro x hx
    simp only [shuffledBlocks, List.mem_cons, List.not_mem_nil, or_false] at hx
    rcases hx with rfl | rfl | rfl | rfl | rfl <;>
      exact plainBlock_fits (by decide) (by decide) none (by decide)
  have hsteady : ∀ a ∈ ((inMemory ⟨"A"⟩).run (shuffledBlocks.map .storeBlock) .empty).1,
      ∀ cause, a.answer ≠ .error (.database cause) := by
    have hanswers : ((inMemory ⟨"A"⟩).run (shuffledBlocks.map .storeBlock) .empty).1
        = shuffledBlocks.map fun x => ⟨.storeBlock x, .ok ()⟩ := rfl
    rw [hanswers]
    intro a ha cause
    obtain ⟨x, -, rfl⟩ := List.mem_map.1 ha
    intro hfail
    cases hfail
  have hchain : ∀ x ∈ shuffledBlocks, x.chain = ⟨"A"⟩ := by decide
  have hempty : id ByteMap.empty = .empty := rfl
  have hstored := stored_blocks_are_linked ByteMap.backend_faithful ByteMap.backend_readable
    hunforked hchain hfits hempty rfl hsteady
  exact ⟨rfl, rfl, hstored.2⟩

end BlockStore

/-! ## Numbers that are stored again with another hash -/

/-- Whether a number was stored with a hash and then with another one. -/
def Replaced (bs : List StoredBlock) (n : UInt64) (h : String) : Prop :=
  ∃ before p after, bs = before ++ p :: after ∧ p.number = n ∧ p.hash = h ∧
    ∃ q ∈ after, q.number = n ∧ q.hash ≠ h

theorem Replaced.concat {bs : List StoredBlock} {n : UInt64} {h : String} (hbs : Replaced bs n h)
    (b : StoredBlock) : Replaced (bs ++ [b]) n h := by
  obtain ⟨before, p, after, rfl, hnumber, hhash, q, hq, hother⟩ := hbs
  refine ⟨before, p, after ++ [b], ?_, hnumber, hhash, q, List.mem_append_left _ hq, hother⟩
  rw [List.append_assoc, List.cons_append]

/-- The number that was last stored with a hash has that hash, unless it was
replaced. -/
theorem hash_of_lastAt {bs : List StoredBlock} {h : String} {p q : StoredBlock}
    (hp : lastWith bs h = some p) (hq : lastAt bs p.number = some q) :
    q.hash = h ∨ Replaced bs p.number h := by
  induction bs using List.reverseRecOn generalizing p q with
  | nil => cases hp
  | append_singleton bs b ih =>
    rw [lastWith_concat] at hp
    rw [lastAt_concat] at hq
    by_cases hb : b.hash = h
    · rw [if_pos hb] at hp
      obtain rfl := Option.some.inj hp
      rw [if_pos rfl] at hq
      obtain rfl := Option.some.inj hq
      exact .inl hb
    · rw [if_neg hb] at hp
      by_cases hn : b.number = p.number
      · right
        obtain ⟨hmem, hhash⟩ := of_lastWith hp
        obtain ⟨before, after, rfl⟩ := List.append_of_mem hmem
        refine ⟨before, p, after ++ [b], ?_, rfl, hhash, b, List.mem_append_cons_self, hn, hb⟩
        rw [List.append_assoc, List.cons_append]
      · rw [if_neg hn] at hq
        rcases ih hp hq with hsame | hreplaced
        · exact .inl hsame
        · exact .inr (hreplaced.concat b)

namespace Archive

/-- What a hash leads to has that hash, unless its number was replaced. -/
theorem hash_of_numbers {bs : List StoredBlock} {h : String} {n : UInt64} {c : StoredBlock}
    (hn : (ofStored bs).numbers h = some n) (hc : (ofStored bs).blocks n = some c) :
    c.hash = h ∨ Replaced bs n h := by
  rw [ofStored_numbers] at hn
  obtain ⟨p, hp, rfl⟩ := Option.map_eq_some_iff.1 hn
  obtain ⟨next, hnext⟩ := ofStored_blocks_linked bs p.number
  rw [hc] at hnext
  obtain ⟨q, hq, rfl⟩ := Option.map_eq_some_iff.1 hnext.symm
  have hhash := hash_of_lastAt hp hq
  exact hhash

/-- A block whose link is changed by storing one of another number has the hash
that the new block names, unless its number was replaced. -/
theorem hash_of_relinked {bs : List StoredBlock} {b old new : StoredBlock} {n : UInt64}
    (hn : n ≠ b.number) (hold : (ofStored bs).blocks n = some old)
    (hnew : (ofStored (bs ++ [b])).blocks n = some new) (hlink : new.nextHash ≠ old.nextHash) :
    new.hash = b.previousHash ∨ Replaced bs n b.previousHash := by
  have hput : (ofStored (bs ++ [b])).blocks n = (ofStored bs).relinked b n := by
    rw [ofStored_concat]
    exact if_neg hn
  rw [hput, relinked] at hnew
  cases hp : (ofStored bs).predecessor? b with
  | none =>
    rw [hp] at hnew
    dsimp only at hnew
    rw [hold] at hnew
    obtain rfl := Option.some.inj hnew
    exact absurd rfl hlink
  | some p =>
    rw [hp] at hnew
    dsimp only at hnew
    by_cases hnp : n = p.number
    · rw [if_pos hnp] at hnew
      obtain rfl := Option.some.inj hnew
      rw [predecessor?] at hp
      split at hp
      · cases hp
      · obtain ⟨m, hm, hpm⟩ := Option.bind_eq_some_iff.1 (Option.filter_eq_some_iff.1 hp).1
        have hnm : n = m := hnp.trans ((ofStored bs).numbered hpm)
        have hhash := hash_of_numbers hm hpm
        rw [hnm]
        exact hhash
    · rw [if_neg hnp] at hnew
      rw [hold] at hnew
      obtain rfl := Option.some.inj hnew
      exact absurd rfl hlink

end Archive

namespace BlockStore

/-- What a hash leads to in a store that some blocks were stored in: a block with
that hash, unless its number was stored again with another one. -/
structure PointsWell (b : Backend σ) (own : ChainId) (bs : List StoredBlock) (s : σ) : Prop where
  byHash {h : String} {c : StoredBlock} :
    (((ofBackend own b).byHash own h).perform s).1 = .ok (some c) →
      c.hash = h ∨ Replaced bs c.number h
  links {x old new : StoredBlock} {n : UInt64} {r : Except StoreError Unit} {s' : σ} :
    x.chain = own → x.Fits → ((ofBackend own b).storeBlock x).perform s = (r, s') →
      n ≠ x.number → (((ofBackend own b).byNumber own n).perform s).1 = .ok (some old) →
      (((ofBackend own b).byNumber own n).perform s').1 = .ok (some new) →
      new.nextHash ≠ old.nextHash → new.hash = x.previousHash ∨ Replaced bs n x.previousHash

/-- Whatever blocks are stored, a hash leads astray only if its number was stored
again with another one. -/
theorem run_points_well {b : Backend σ} {entries : σ → ByteMap} (hb : b.Faithful entries)
    {own : ChainId} {calls : List StoreCall} (hcalls : ∀ c ∈ calls, c.Fits own) {s₀ s : σ}
    (hempty : entries s₀ = .empty) {answers : List Answered}
    (h : (ofBackend own b).run calls s₀ = (answers, s)) :
    PointsWell b own (stored answers) s := by
  obtain ⟨hs, -⟩ := sound_run hb hcalls (sound_of_empty own hempty) h
  rw [List.nil_append] at hs
  have hread : ∀ {bs : List StoredBlock} {s : σ} {n : UInt64} {c : StoredBlock},
      Sound own bs (entries s) →
      (((ofBackend own b).byNumber own n).perform s).1 = .ok (some c) →
      (Archive.ofStored bs).blocks n = some c := by
    intro bs s n c hs hc
    have hmap := map_answer_of_call hb hs (c := .byNumber own n) trivial hc
    have harchive := congrArg Prod.fst (Archive.readBlock_perform hs.archive n)
    exact Except.ok.inj (harchive.symm.trans hmap)
  refine ⟨?_, ?_⟩
  · intro t c hc
    have hmap := map_answer_of_call hb hs (c := .byHash own t) trivial hc
    change ((readByHash ByteMap.backend own t).perform (entries s)).1 = _ at hmap
    rw [readByHash, perform_bind_ok (Archive.readNumber_perform hs.archive t)] at hmap
    cases hn : (Archive.ofStored (stored answers)).numbers t with
    | none =>
      rw [hn] at hmap
      cases hmap
    | some n =>
      rw [hn] at hmap
      have hblock : (Archive.ofStored (stored answers)).blocks n = some c := by
        have harchive := congrArg Prod.fst (Archive.readBlock_perform hs.archive n)
        exact Except.ok.inj (harchive.symm.trans hmap)
      rw [Archive.numbered _ hblock]
      exact Archive.hash_of_numbers hn hblock
  · intro x old new n r s' hchain hfits hstore hn hold hnew hlink
    have hold' := hread hs hold
    rcases of_call hb hs (c := .storeBlock x) ⟨hchain, hfits⟩ hstore with
      ⟨_, -, -, hkept⟩ | ⟨v, -, -, hs'⟩
    · -- Nothing was stored, so nothing was linked.
      have hnew' := hread (hkept ▸ hs) hnew
      rw [hold'] at hnew'
      obtain rfl := Option.some.inj hnew'
      exact absurd rfl hlink
    · exact Archive.hash_of_relinked hn hold' (hread hs' hnew) hlink

/-- Two blocks of one number. -/
def rivals : List StoredBlock :=
  [plainBlock 1 "h0" "h1a", plainBlock 1 "h0" "h1b"]

/-- A store that both were stored in. -/
def rivalStore : ByteMap :=
  ((inMemory ⟨"A"⟩).run (rivals.map .storeBlock) .empty).2

/-- The number of the first block was stored again, so its hash may lead
anywhere. -/
theorem rivals_point_well :
    PointsWell ByteMap.backend ⟨"A"⟩ rivals rivalStore ∧ Replaced rivals 1 "h1a" := by
  have hfits : ∀ c ∈ rivals.map StoreCall.storeBlock, c.Fits ⟨"A"⟩ := by
    intro c hc
    simp only [rivals, List.map_cons, List.map_nil, List.mem_cons, List.not_mem_nil, or_false] at hc
    rcases hc with rfl | rfl
    · exact ⟨rfl, plainBlock_fits (by decide) (by decide) none (by decide)⟩
    · exact ⟨rfl, plainBlock_fits (by decide) (by decide) none (by decide)⟩
  have hreplaced : Replaced rivals 1 "h1a" :=
    ⟨[], plainBlock 1 "h0" "h1a", [plainBlock 1 "h0" "h1b"], rfl, rfl, rfl,
      plainBlock 1 "h0" "h1b", List.mem_cons_self, rfl, by decide⟩
  have hempty : id ByteMap.empty = .empty := rfl
  exact ⟨run_points_well ByteMap.backend_faithful hfits hempty rfl, hreplaced⟩

/-- It does lead astray: by the hash of the first block the second one is found,
and a successor of the first one is linked from the second. -/
theorem replaced_hash_leads_astray :
    (∃ h c, (((inMemory ⟨"A"⟩).byHash ⟨"A"⟩ h).perform rivalStore).1 = .ok (some c) ∧ c.hash ≠ h) ∧
      ∃ (x old new : StoredBlock) (n : UInt64) (s' : ByteMap), n ≠ x.number ∧ x.nextHash = none ∧
        ((inMemory ⟨"A"⟩).storeBlock x).perform rivalStore = (.ok (), s') ∧
        (((inMemory ⟨"A"⟩).byNumber ⟨"A"⟩ n).perform rivalStore).1 = .ok (some old) ∧
        (((inMemory ⟨"A"⟩).byNumber ⟨"A"⟩ n).perform s').1 = .ok (some new) ∧
        new.nextHash ≠ old.nextHash ∧ new.hash ≠ x.previousHash := by
  refine ⟨⟨"h1a", plainBlock 1 "h0" "h1b", rfl, by decide⟩, ?_⟩
  refine ⟨plainBlock 2 "h1a" "h2", plainBlock 1 "h0" "h1b",
    { plainBlock 1 "h0" "h1b" with nextHash := some "h2" }, 1, _, by decide, rfl, rfl, rfl, rfl,
    by decide, by decide⟩

end BlockStore

end RelayHub
