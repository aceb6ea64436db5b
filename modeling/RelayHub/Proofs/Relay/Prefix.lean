/-
The store holds the first blocks of the ledger, linked.

A loop takes blocks in order from where the store ends, and stores each once
all of its transactions are through. So at every moment of a history, however
often loops are stopped and whatever fails, there is a number `k` such that the
store holds the first `k` blocks and the loop at work stands at the next one.
`Abreast` is the loop's half of this and is kept by its turns, as long as store
and ledger answer truthfully; `HoldsFirst` puts the other half beside it.
-/
import RelayHub.Proofs.Ledger.Memory
import RelayHub.Proofs.Relay.History
import RelayHub.Proofs.Relay.Links
import RelayHub.Proofs.Store.Chain

set_option autoImplicit false

namespace RelayHub

open Script BlockStore Layout

variable {σ : Type}

/-! ## Blocks that are not stored yet -/

namespace Relay

variable {relay : Relay} {b : RawBlock} {part : List Deed}

/-- A journal in which each transaction of a block has been gone through to its
end, and in which the block has not been stored for all tries. -/
def Extracted (relay : Relay) (b : RawBlock) (part : List Deed) : Prop :=
  ∃ parts tries, part = parts.flatten ++ tries ∧
    List.Forall₂ (fun e part => Leads (relay.relayEnvelope b e) part (.done ())) b.envelopes parts ∧
    Refusals (.storeBlock (.ofRaw relay.chain b)) succeeded tries

/-- The processing of a block that has not been stored: its journal, and what is
left to do. -/
inductive Unstored (relay : Relay) (b : RawBlock) : List Deed → RelayScript Unit → Prop where
  | relaying {part : List Deed} {a : RelayScript Unit}
      (h : Leads (each b.envelopes (relay.relayEnvelope b)) part a) (hopen : a.value? = none) :
      Unstored relay b part (a.andThen fun _ => relay.persist b)
  | storing {part : List Deed} (h : relay.Extracted b part) : Unstored relay b part (relay.persist b)

/-- While its transactions are gone through, a block is not stored. -/
theorem unstored_of_leads {a : RelayScript Unit}
    (h : Leads (each b.envelopes (relay.relayEnvelope b)) part a) :
    relay.Unstored b part (a.andThen fun _ => relay.persist b) := by
  cases a with
  | done v =>
    obtain ⟨parts, hparts, rfl⟩ := of_leads_each_done h
    exact .storing ⟨parts, [], by simp, hparts, by simp [Refusals]⟩
  | attempt op accept next => exact .relaying h rfl

/-- One operation for a block that is not stored: one for a request, or a try
of storing it, which fails or not. -/
theorem Unstored.tries {work work' : RelayScript Unit} {t : Deed}
    (h : relay.Unstored b part work) (htries : Tries work t work') :
    (t.op.forRequests = true ∧ relay.Unstored b (part ++ [t]) work') ∨
      (∃ e, t = ⟨.storeBlock (.ofRaw relay.chain b), .error e⟩ ∧
        relay.Unstored b (part ++ [t]) work') ∨
      (t = ⟨.storeBlock (.ofRaw relay.chain b), .ok ()⟩ ∧ relay.Extracted b part ∧
        work' = count .blocksProcessed) := by
  cases h with
  | @relaying a ha hopen =>
    rcases of_tries_andThen htries with ⟨a', hnext, rfl⟩ | ⟨v, rfl, -⟩
    · have hlonger := ha.snoc hnext
      exact .inl ⟨forRequests_of_each hlonger t (by simp), unstored_of_leads hlonger⟩
    · cases hopen
  | storing hextracted =>
    cases htries with
    | @accepted _ _ answer _ _ v hv =>
      obtain rfl := eq_ok_of_succeeded hv
      exact .inr (.inr ⟨rfl, hextracted, rfl⟩)
    | @refused _ _ answer _ _ hnone =>
      cases answer with
      | ok v => cases hnone
      | error e =>
        obtain ⟨parts, tries, rfl, hparts, htries⟩ := hextracted
        refine .inr (.inl ⟨e, rfl, .storing ⟨parts, _, List.append_assoc _ _ _, hparts, ?_⟩⟩)
        exact List.forall_mem_append.2 ⟨htries, List.forall_mem_singleton.2 ⟨_, rfl, rfl⟩⟩

theorem Unstored.ne_done {work : RelayScript Unit} (h : relay.Unstored b part work) :
    work ≠ .done () := by
  cases h with
  | relaying _ hopen => exact andThen_ne_done hopen
  | storing _ => exact andThen_ne_done rfl

/-- A life in which a block was stored, right after each of its transactions had
been gone through. -/
def Extracts (relay : Relay) (b : RawBlock) (life : List Deed) : Prop :=
  ∃ before part after, relay.Extracted b part ∧
    life = before ++ part ++ ⟨.storeBlock (.ofRaw relay.chain b), .ok ()⟩ :: after

theorem Extracts.append {life : List Deed} (h : relay.Extracts b life) (later : List Deed) :
    relay.Extracts b (life ++ later) := by
  obtain ⟨before, part, after, hpart, rfl⟩ := h
  exact ⟨before, part, after ++ later, hpart, by simp⟩

/-! ## Loops beside a store -/

/-- A loop that stands at the block at a place `k` of a list, with `k` blocks
stored. -/
inductive Abreast (relay : Relay) (bs : List RawBlock) (k : Nat) (life : List Deed) :
    LoopState → Prop where
  | looking {cursor : Cursor} (h : ∀ n ∈ cursor.position, n.toNat = k) :
      Abreast relay bs k life (.looking cursor)
  | resolving : Abreast relay bs k life (.fetching Cursor.new.next)
  | querying {n : UInt64} (h : n.toNat = k) :
      Abreast relay bs k life (.fetching (Cursor.query (n + 1)))
  | fetched {b : RawBlock} (h : bs[k]? = some b) : Abreast relay bs k life (.fetching (.done b))
  | unstored {b : RawBlock} {before part : List Deed} {work : RelayScript Unit}
      (hb : bs[k]? = some b) (hlife : life = before ++ part) (h : relay.Unstored b part work) :
      Abreast relay bs k life (.processing (.after b.number) work)
  | counting {n : UInt64} {work : RelayScript Unit} (h : n.toNat = k)
      (hwork : work = count .blocksProcessed ∨ work = .done ()) :
      Abreast relay bs k life (.processing (.after n) work)
  | stopped : Abreast relay bs k life .stopped

/-- What a store of the first `k` blocks, and a ledger of blocks, say of them. -/
structure Truthful (bs : List RawBlock) (k : Nat) (t : Deed) : Prop where
  latest {n : UInt64} : t = ⟨.latest, .ok n⟩ → n.toNat = k
  query {n : UInt64} {b : RawBlock} : t = ⟨.query n, .ok b⟩ → b.number = n →
    ∃ i, n.toNat = i + 1 ∧ bs[i]? = some b

namespace Abreast

variable {bs : List RawBlock} {k : Nat} {life : List Deed} {loop loop' : LoopState}

/-- A turn without an operation. -/
theorem rests (h : relay.Abreast bs k life loop) (hmoves : loop.Moves relay none loop') :
    relay.Abreast bs k life loop' := by
  cases hmoves with
  | rests => exact h
  | looks cursor =>
    cases h with
    | looking hposition =>
      obtain ⟨_ | n⟩ := cursor
      · exact .resolving
      · exact .querying (hposition n rfl)
  | stopsLooking => exact .stopped
  | stopsFetching => exact .stopped
  | takes b =>
    cases h with
    | fetched hb => exact .unstored hb (List.append_nil life).symm (unstored_of_leads (.nil _))
  | finishes cursor =>
    cases h with
    | unstored _ _ hunstored => exact absurd rfl hunstored.ne_done
    | counting hn hwork => exact .looking fun n hn' => by cases hn'; exact hn

/-- A turn with an operation: the loop stands where it stood, and stores
nothing, or it stores the block at which it stood. -/
theorem acts (h : relay.Abreast bs k life loop) {t : Deed}
    (hmoves : loop.Moves relay (some t) loop') (ht : Truthful bs k t) (hlinked : Linked bs) :
    (relay.Abreast bs k (life ++ [t]) loop' ∧ ∀ b, t.op = .storeBlock b →
        ∃ c e, bs[k]? = some c ∧ t = ⟨.storeBlock (.ofRaw relay.chain c), .error e⟩) ∨
      ∃ b, bs[k]? = some b ∧ t = ⟨.storeBlock (.ofRaw relay.chain b), .ok ()⟩ ∧
        relay.Extracts b (life ++ [t]) ∧ relay.Abreast bs (k + 1) (life ++ [t]) loop' := by
  cases hmoves with
  | fetches htries =>
    cases h with
    | resolving =>
      rcases Cursor.of_tries_new htries with ⟨hop, rfl⟩ | ⟨n, rfl, rfl⟩
      · exact .inl ⟨.resolving, by simp [hop]⟩
      · exact .inl ⟨.querying (ht.latest rfl), by simp⟩
    | @querying n hn =>
      rcases Cursor.of_tries_query htries with ⟨hop, rfl⟩ | ⟨b, hb, rfl, rfl⟩
      · exact .inl ⟨.querying hn, by simp [hop]⟩
      · -- Past the greatest word comes zero, which is no block's number.
        obtain ⟨i, hi, hat⟩ := ht.query rfl hb
        have hplace : i = k := by
          rw [UInt64.toNat_add, hn] at hi
          have hword := n.toNat_lt
          rw [hn] at hword
          have hone : (1 : UInt64).toNat = 1 := rfl
          omega
        exact .inl ⟨.fetched (hplace ▸ hat), by simp⟩
    | fetched => cases htries
  | works htries =>
    cases h with
    | @unstored b before part _ hb hlife hunstored =>
      subst hlife
      rcases hunstored.tries htries with ⟨hop, hnext⟩ | ⟨e, rfl, hnext⟩ | ⟨rfl, hpart, rfl⟩
      · refine .inl ⟨.unstored hb (List.append_assoc _ _ _) hnext, fun c hc => ?_⟩
        rw [hc] at hop
        cases hop
      · exact .inl ⟨.unstored hb (List.append_assoc _ _ _) hnext, fun _ _ => ⟨b, e, hb, rfl⟩⟩
      · exact .inr ⟨b, hb, rfl, ⟨before, part, [], hpart, rfl⟩,
          .counting (hlinked.number hb) (.inl rfl)⟩
    | counting hn hwork =>
      rcases hwork with rfl | rfl
      · cases htries with
        | @accepted _ _ answer _ _ v hv => exact .inl ⟨.counting hn (.inr rfl), by simp⟩
        | refused hnone => cases hnone
      · cases htries

end Abreast

/-! ## Sites beside a ledger -/

/-- A site whose store holds the first `k` blocks of a list, whose loops have
gone through the transactions of these, and whose loop at work stands at the
next one. -/
structure HoldsFirst (relay : Relay) (entries : σ → ByteMap) (bs : List RawBlock) (k : Nat)
    (x : Site σ) : Prop where
  bound : k ≤ bs.length
  archive (h : Linked (bs.take k)) :
    (Archive.ofBlocks relay.chain (bs.take k) h).On relay.chain (entries x.world)
  extracted {i : Nat} {b : RawBlock} : i < k → bs[i]? = some b →
    ∃ life ∈ x.lives, relay.Extracts b life
  abreast : relay.Abreast bs k x.life x.loop

/-- What happens around a relay leaves its store alone, and adds blocks to its
chain at most. -/
def Respects (entries : σ → ByteMap) (blocks : σ → List RawBlock) : Happening σ → Prop
  | .outside change => ∀ s, entries (change s) = entries s ∧ blocks s <+: blocks (change s)
  | _ => True

/-- Before anything has happened, no blocks are stored. -/
theorem holdsFirst_opened {entries : σ → ByteMap} {world : σ} (hempty : entries world = .empty)
    (bs : List RawBlock) : relay.HoldsFirst entries bs 0 (.opened world) where
  bound := Nat.zero_le _
  archive h := by
    have hon := Archive.empty_on relay.chain
    have hnil : Linked [] := h
    rw [← Archive.ofBlocks_nil hnil, ← hempty] at hon
    exact hon
  extracted hi := absurd hi (Nat.not_lt_zero _)
  abreast := .looking (by simp [Cursor.new])

section Sites

variable {links : RelayLinks σ} {entries : σ → ByteMap} {blocks : σ → List RawBlock}
  {bs : List RawBlock} {k : Nat} {x : Site σ}

/-- Whatever happens, the chain only grows. -/
theorem blocks_happen (hledger : links.Appends blocks) {h : Happening σ}
    (hrespects : Respects entries blocks h) (x : Site σ) :
    blocks x.world <+: blocks (Site.happen relay links.perform h x).world := by
  cases h with
  | turn signal turn =>
    rcases Site.happen_turn signal turn x with ⟨loop', -, hx⟩ | ⟨op, loop', -, hx⟩
    · exact hx ▸ List.prefix_rfl
    · rw [hx]
      exact hledger.grows op x.world
  | restart => exact List.prefix_rfl
  | outside change => exact (hrespects x.world).2

theorem blocks_play (hledger : links.Appends blocks) {history : List (Happening σ)}
    (hrespects : ∀ h ∈ history, Respects entries blocks h) (x : Site σ) :
    blocks x.world <+: blocks (Site.play relay links.perform history x).world :=
  Site.play_invariant (P := fun y => blocks x.world <+: blocks y.world) List.prefix_rfl
    fun h hh y hy => hy.trans (blocks_happen hledger (hrespects h hh) y)

/-- What the store of a site answers. -/
theorem holdsPrefix_of_holdsFirst (hlinked : Linked bs) (h : relay.HoldsFirst entries bs k x) :
    ∃ top : UInt64, top.toNat = k ∧ HoldsPrefix relay.chain bs (entries x.world) top :=
  have hfirst : Linked (bs.take k) := hlinked.of_isPrefix (List.take_prefix k bs)
  holdsPrefix_of_on hlinked h.bound hfirst (h.archive hfirst)

variable (hlinks : links.Faithful entries) (hchain : links.chain = relay.chain)
  (hlinked : Linked bs)
include hlinks hchain hlinked

/-- The archive of the first blocks, before and after a try of storing the next
one. -/
theorem archive_of_storeBlock (hname : FitsText relay.chain.name) {b : RawBlock} (hfits : b.Fits)
    (hb : bs[k]? = some b) (h : relay.HoldsFirst entries bs k x) :
    (∃ e, (links.perform (.storeBlock (.ofRaw relay.chain b)) x.world).1 = .error e ∧
      ∀ hfirst, (Archive.ofBlocks relay.chain (bs.take k) hfirst).On relay.chain
        (entries (links.perform (.storeBlock (.ofRaw relay.chain b)) x.world).2)) ∨
      (links.perform (.storeBlock (.ofRaw relay.chain b)) x.world).1 = .ok () ∧
      ∀ hnext, (Archive.ofBlocks relay.chain (bs.take (k + 1)) hnext).On relay.chain
        (entries (links.perform (.storeBlock (.ofRaw relay.chain b)) x.world).2) := by
  have hfirst : Linked (bs.take k) := hlinked.of_isPrefix (List.take_prefix k bs)
  have hon := h.archive hfirst
  have hblock : (StoredBlock.ofRaw relay.chain b).Fits :=
    StoredBlock.ofRaw_fits hname hfits (by simp)
  have htake : bs.take (k + 1) = bs.take k ++ [b] := by
    rw [List.take_add_one, hb]
    rfl
  have hstore := hlinks.storeBlock_on hchain.symm hblock (hchain ▸ hon)
  rw [hchain] at hstore
  rcases hstore with ⟨e, hfail, hkept⟩ | ⟨hok, hput⟩
  · exact .inl ⟨e, hfail, fun _ => hkept⟩
  · refine .inr ⟨hok, ?_⟩
    rw [htake]
    intro hnext
    rw [← Archive.ofBlocks_put hfirst hnext]
    exact hput

variable (hledger : links.Appends blocks)
include hledger

/-- Store and ledger answer truthfully. -/
theorem truthful_of_holdsFirst (h : relay.HoldsFirst entries bs k x) {op : RelayOp}
    (hblocks : blocks (links.perform op x.world).2 <+: bs) :
    Truthful bs k ⟨op, (links.perform op x.world).1⟩ where
  latest {n} ht := by
    obtain ⟨rfl, hanswer⟩ := Tried.mk.inj ht
    obtain ⟨top, htop, hstore⟩ := holdsPrefix_of_holdsFirst hlinked h
    have hsaid := hlinks.latest_answer (eq_of_heq hanswer)
    rw [hchain, hstore.latest] at hsaid
    cases hsaid
    exact htop
  query {n b} ht hn := by
    obtain ⟨rfl, hanswer⟩ := Tried.mk.inj ht
    obtain ⟨i, hi, hat⟩ := hledger.answers (eq_of_heq hanswer) hn
    obtain ⟨hlt, rfl⟩ := List.getElem?_eq_some_iff.1 hat
    exact ⟨i, hi, List.prefix_iff_getElem?.1 hblocks i hlt⟩

variable (hname : FitsText relay.chain.name) (hfits : ∀ b ∈ bs, b.Fits)
include hname hfits

/-- A turn with an operation keeps the first blocks in the store, or adds the
next one. -/
theorem holdsFirst_of_acts (h : relay.HoldsFirst entries bs k x) {op : RelayOp} {loop' : LoopState}
    (hmoves : x.loop.Moves relay (some ⟨op, (links.perform op x.world).1⟩) loop')
    (hblocks : blocks (links.perform op x.world).2 <+: bs) :
    ∃ k', relay.HoldsFirst entries bs k'
      { x with
        loop := loop'
        world := (links.perform op x.world).2
        life := x.life ++ [⟨op, (links.perform op x.world).1⟩] } := by
  have htrue := truthful_of_holdsFirst hlinks hchain hlinked hledger h hblocks
  have hextracted : ∀ {i : Nat} {b : RawBlock}, i < k → bs[i]? = some b →
      ∃ life ∈ x.earlier ++ [x.life ++ [⟨op, (links.perform op x.world).1⟩]],
        relay.Extracts b life := by
    intro i b hi hb
    obtain ⟨life, hlife, hb⟩ := h.extracted hi hb
    rcases List.mem_append.1 hlife with hlife | hlife
    · exact ⟨life, List.mem_append_left _ hlife, hb⟩
    · rw [List.mem_singleton.1 hlife] at hb
      exact ⟨_, List.mem_append_right _ (List.mem_singleton_self _), hb.append _⟩
  -- Either the loop stands where it stood, or it has stored the block there.
  rcases h.abreast.acts hmoves htrue hlinked with ⟨hstays, hop⟩ | ⟨b, hb, ht, hlife, hnext⟩
  · refine ⟨k, h.bound, fun hfirst => ?_, hextracted, hstays⟩
    -- An operation that stores no block, or a try of it that failed.
    by_cases hstore : ∃ b, op = .storeBlock b
    · obtain ⟨_, rfl⟩ := hstore
      obtain ⟨b, e, hb, ht⟩ := hop _ rfl
      obtain ⟨⟨⟩, hanswer⟩ := Tried.mk.inj ht
      rcases archive_of_storeBlock hlinks hchain hlinked hname
        (hfits b (List.mem_of_getElem? hb)) hb h with ⟨_, -, hkept⟩ | ⟨hok, -⟩
      · exact hkept hfirst
      · rw [hok] at hanswer
        cases eq_of_heq hanswer
    · have hkept := hlinks.perform_on (fun b hb => hstore ⟨b, hb⟩) (hchain ▸ h.archive hfirst)
      rw [hchain] at hkept
      exact hkept
  · obtain ⟨rfl, hanswer⟩ := Tried.mk.inj ht
    refine ⟨k + 1, (List.getElem?_eq_some_iff.1 hb).1, ?_, fun {i c} hi hc => ?_, hnext⟩
    · rcases archive_of_storeBlock hlinks hchain hlinked hname
        (hfits b (List.mem_of_getElem? hb)) hb h with ⟨_, hfail, -⟩ | ⟨-, hput⟩
      · rw [hfail] at hanswer
        cases eq_of_heq hanswer
      · exact hput
    -- The older blocks had been gone through before; the new one has been just now.
    · rcases Nat.lt_succ_iff_lt_or_eq.1 hi with hlt | rfl
      · exact hextracted hlt hc
      · cases hb.symm.trans hc
        exact ⟨_, List.mem_append_right _ (List.mem_singleton_self _), hlife⟩

/-- Whatever happens at a site, its store goes on to hold the first blocks. -/
theorem holdsFirst_happen (h : relay.HoldsFirst entries bs k x) {event : Happening σ}
    (hrespects : Respects entries blocks event)
    (hblocks : blocks (Site.happen relay links.perform event x).world <+: bs) :
    ∃ k', relay.HoldsFirst entries bs k' (Site.happen relay links.perform event x) := by
  cases event with
  | turn signal turn =>
    rcases Site.happen_turn signal turn x with ⟨loop', hmoves, hx⟩ | ⟨op, loop', hmoves, hx⟩
    · rw [hx]
      exact ⟨k, h.bound, h.archive, h.extracted, h.abreast.rests hmoves⟩
    · rw [hx] at hblocks ⊢
      exact holdsFirst_of_acts hlinks hchain hlinked hledger hname hfits h hmoves hblocks
  | restart =>
    -- A new loop has no position yet, so it asks the store for one.
    refine ⟨k, h.bound, h.archive, fun hi hb => ?_, .looking (by simp [Cursor.new])⟩
    obtain ⟨life, hlife, hb⟩ := h.extracted hi hb
    exact ⟨life, List.mem_append_left _ hlife, hb⟩
  | outside change =>
    refine ⟨k, h.bound, fun hfirst => ?_, h.extracted, h.abreast⟩
    -- What is around the relay may change, but not its store.
    have hsame : entries (change x.world) = entries x.world := (hrespects x.world).1
    change (Archive.ofBlocks relay.chain (bs.take k) hfirst).On relay.chain
      (entries (change x.world))
    rw [hsame]
    exact h.archive hfirst

theorem holdsFirst_play (h : relay.HoldsFirst entries bs k x) {history : List (Happening σ)}
    (hrespects : ∀ event ∈ history, Respects entries blocks event)
    (hblocks : blocks (Site.play relay links.perform history x).world <+: bs) :
    ∃ k', relay.HoldsFirst entries bs k' (Site.play relay links.perform history x) := by
  induction history generalizing k x with
  -- The list of blocks is the one at the very end. At each moment the chain has a prefix
  -- of it, which is why `bs` does not change along the history.
  | nil => exact ⟨k, h⟩
  | cons event history ih =>
    obtain ⟨hevent, hhistory⟩ := List.forall_mem_cons.1 hrespects
    rw [Site.play_cons] at hblocks ⊢
    obtain ⟨k', h'⟩ := holdsFirst_happen hlinks hchain hlinked hledger hname hfits h hevent
      ((blocks_play hledger hhistory _).trans hblocks)
    exact ih h' hhistory hblocks

end Sites

/-- A site whose store holds the first blocks of a list, up to the number
`top`. -/
structure KeepsUp (relay : Relay) (entries : σ → ByteMap) (bs : List RawBlock) (x : Site σ)
    (top : UInt64) : Prop where
  /-- They are stored, each linked to the next, and nothing else is. -/
  store : HoldsPrefix relay.chain bs (entries x.world) top
  /-- All of their transactions have been gone through. -/
  extracted {i : Nat} {b : RawBlock} : i < top.toNat → bs[i]? = some b →
    ∃ life ∈ x.lives, relay.Extracts b life
  /-- The block that a loop is about to process is the one after them. -/
  next {b : RawBlock} : x.loop = .fetching (.done b) → bs[top.toNat]? = some b

/-- From an empty store on, wherever loops are stopped and whatever fails, the
store holds the first blocks of the ledger, linked. -/
theorem store_follows_ledger {links : RelayLinks σ} {entries : σ → ByteMap}
    {blocks : σ → List RawBlock} (hlinks : links.Faithful entries)
    (hchain : links.chain = relay.chain) (hledger : links.Appends blocks)
    (hname : FitsText relay.chain.name) {world : σ} (hempty : entries world = .empty)
    {history : List (Happening σ)} (hrespects : ∀ event ∈ history, Respects entries blocks event)
    (hlinked : Linked (blocks (Site.play relay links.perform history (.opened world)).world))
    (hfits : ∀ b ∈ blocks (Site.play relay links.perform history (.opened world)).world, b.Fits) :
    ∃ top, relay.KeepsUp entries
      (blocks (Site.play relay links.perform history (.opened world)).world)
      (Site.play relay links.perform history (.opened world)) top := by
  obtain ⟨k, h⟩ := holdsFirst_play hlinks hchain hlinked hledger hname hfits
    (holdsFirst_opened hempty _) hrespects List.prefix_rfl
  obtain ⟨top, htop, hstore⟩ := holdsPrefix_of_holdsFirst hlinked h
  subst htop
  refine ⟨top, hstore, h.extracted, fun {b} hloop => ?_⟩
  have habreast := h.abreast
  rw [hloop] at habreast
  cases habreast with
  | fetched hb => exact hb

/-! ### Two blocks, with a restart

The chain of the bench has a second block. A loop stores the first one and is stopped, and
the next loop goes on with the second. -/

/-- The block behind the one of the bench. -/
def laterBlock : RawBlock :=
  { Bench.block with
    number := 2
    previousHash := "h1"
    dataHash := "d2"
    hash := "h2"
    envelopes := [] }

/-- The bench with both blocks. -/
def startWithTwo : Bench :=
  (.empty, ⟨[(Bench.chain, { Chain.new "router" "proxy" with
    blocks := [Bench.block, laterBlock]
    requests := [(⟨"1", "1"⟩, Bench.envelope.args.drop 1)] })]⟩)

theorem two_blocks_linked : Linked [Bench.block, laterBlock] where
  number {i b} hb := by
    rcases i with _ | _ | i
    · cases hb
      rfl
    · cases hb
      rfl
    · simp at hb
  hashed {b} hb := by
    simp only [List.mem_cons, List.not_mem_nil, or_false] at hb
    rcases hb with rfl | rfl <;> decide
  distinct := by decide
  linked {i b c} hb hc := by
    rcases i with _ | i
    · cases hb
      cases hc
      rfl
    · simp at hc

theorem laterBlock_fits : laterBlock.Fits where
  previousHash := by decide
  hash := by decide
  dataHash := by decide
  origin := by decide
  txHash he _ := by cases he
  raw he := by cases he

/-- A loop stores the first block, and the one after it takes some turns. -/
def restartHistory (turns : Nat) : List (Happening Bench) :=
  List.replicate 12 (.turn (.holding false) .work) ++
    .restart :: List.replicate turns (.turn (.holding false) .work)

/-- The bench after both. -/
def restartedSite (turns : Nat) : Site Bench :=
  Site.play ⟨Bench.chain, "router"⟩ Bench.perform (restartHistory turns) (.opened startWithTwo)

theorem restarted_bench_keeps_up :
    (restartedSite 3).loop = .fetching (.done laterBlock) ∧
      KeepsUp ⟨Bench.chain, "router"⟩ Prod.fst [Bench.block, laterBlock] (restartedSite 3) 1 ∧
      KeepsUp ⟨Bench.chain, "router"⟩ Prod.fst [Bench.block, laterBlock] (restartedSite 7) 2 := by
  have hkeeps (turns : Nat) {top : UInt64}
      (hblocks : (restartedSite turns).world.2.blocks Bench.chain = [Bench.block, laterBlock])
      (hlatest : (((inMemory Bench.chain).latest Bench.chain).perform
        (restartedSite turns).world.1).1 = .ok top) :
      KeepsUp ⟨Bench.chain, "router"⟩ Prod.fst [Bench.block, laterBlock] (restartedSite turns)
        top := by
    have hlinked : Linked ((restartedSite turns).world.2.blocks Bench.chain) := by
      rw [hblocks]
      exact two_blocks_linked
    have hfits : ∀ b ∈ (restartedSite turns).world.2.blocks Bench.chain, b.Fits := by
      rw [hblocks]
      simpa using ⟨Bench.block_fits, laterBlock_fits⟩
    obtain ⟨top', hkeeps⟩ := @store_follows_ledger Bench ⟨Bench.chain, "router"⟩
      (RelayLinks.onBench Bench.chain fun _ => .ok Bench.response) Prod.fst
      (fun s => s.2.blocks Bench.chain) (RelayLinks.onBench_faithful _ _) rfl
      (RelayLinks.onBench_appends _ _) (by decide) startWithTwo rfl (restartHistory turns)
      (by simp [restartHistory, Respects]) hlinked hfits
    change KeepsUp _ _ ((restartedSite turns).world.2.blocks Bench.chain) (restartedSite turns) top'
      at hkeeps
    rw [hkeeps.store.latest] at hlatest
    cases hlatest
    rw [← hblocks]
    exact hkeeps
  exact ⟨rfl, hkeeps 3 (by decide +kernel) (by decide +kernel),
    hkeeps 7 (by decide +kernel) (by decide +kernel)⟩

end Relay

end RelayHub
