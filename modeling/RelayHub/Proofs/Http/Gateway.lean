/-
Where a gateway has its chains.

The name of a chain is put into an address as it is. A name that is one step there
is found under a step of its own below the address of the gateway, written with
percent signs, so that no two chains of such names have a block or their calls in
the same place. Other names are one step for the hub and something else for the
gateway: they lead to the blocks of another chain, or cut the address before the
number of the block.
-/
import RelayHub.Http.Gateway
import RelayHub.Proofs.Net.Url
import RelayHub.Proofs.Node.Stores

set_option autoImplicit false

namespace RelayHub

namespace ChainId

/-- Whether the name of a chain is one step of a path where it stands in an address. -/
def IsStep (c : ChainId) : Prop :=
  Url.IsStep c.name.toList

instance (c : ChainId) : Decidable c.IsStep :=
  inferInstanceAs (Decidable (Url.IsStep c.name.toList))

/-- The name of a chain as it is written in the path of an address. -/
def step (c : ChainId) : String :=
  String.ofList (Percent.encode Percent.notInPath c.name.toList)

theorem decode_step {c : ChainId} (h : c.IsStep) :
    Percent.decode c.step.toList = Utf8.encode c.name := by
  rw [step, String.toList_ofList, Percent.decode_encode_notInPath, h.plain]
  rfl

theorem step_inj {c d : ChainId} (hc : c.IsStep) (hd : d.IsStep) (h : c.step = d.step) : c = d := by
  have hname : Utf8.encode c.name = Utf8.encode d.name := by
    rw [← decode_step hc, ← decode_step hd, h]
  cases c
  cases d
  exact congrArg ChainId.mk (Utf8.encode_injective hname)

theorem slash_not_mem_step {c : ChainId} (h : c.IsStep) : '/' ∉ c.step.toList := by
  intro hslash
  rw [step, String.toList_ofList] at hslash
  rcases Percent.mem_encode hslash with hslash | hslash | hslash
  · exact h.whole '/' hslash List.mem_cons_self
  · exact absurd hslash (by decide)
  · exact absurd hslash (by decide)

end ChainId

/-- Steps of letters and digits, one of them at least. -/
structure Worded (steps : List String) : Prop where
  some : steps ≠ []
  words : ∀ s ∈ steps, ∀ c ∈ s.toList, c.isAlphanum = true

theorem alphanum_digits (n : Nat) : ∀ c ∈ (toString n).toList, c.isAlphanum = true := by
  intro c hc
  rw [Nat.toString_eq_repr, Nat.toList_repr] at hc
  have hdigit := Nat.isDigit_of_mem_toDigits (by decide) (by decide) hc
  rw [Char.isAlphanum, hdigit, Bool.or_true]

theorem toString_nat_inj {m n : Nat} (h : toString m = toString n) : m = n := by
  rw [Nat.toString_eq_repr, Nat.toString_eq_repr, ← String.toList_inj, Nat.toList_repr,
    Nat.toList_repr] at h
  rw [← Nat.ofDigitChars_ten_toDigits (n := m), h, Nat.ofDigitChars_ten_toDigits]

namespace Gateway

/-- The path that an address leads to, if it is one. -/
def pathOf? (address : String) : Option String :=
  (Url.ofString address).map (·.path.text)

/-- Where the address of a gateway leads: to a place on the web, with no query or
fragment that would take in what is put behind it. -/
structure LeadsTo (g : Gateway) (base : Url) : Prop where
  read : Url.ofString (g.base ++ "/") = some base
  place : base.IsPlace

/-- The address of something that a gateway has for a chain, by steps. -/
def chainAddress (g : Gateway) (c : ChainId) (steps : List String) : String :=
  String.ofList (g.base.toList ++
    (("channels" :: c.name :: steps).map String.toList).flatMap ('/' :: ·))

theorem blockAddress_eq (g : Gateway) (c : ChainId) (n : UInt64) :
    g.blockAddress c n = g.chainAddress c ["blocks", toString n.toNat] := by
  rw [chainAddress, ← String.toList_inj, String.toList_ofList]
  simp [blockAddress]

theorem invokeAddress_eq (g : Gateway) (c : ChainId) :
    g.invokeAddress c = g.chainAddress c ["invoke"] := by
  rw [chainAddress, ← String.toList_inj, String.toList_ofList]
  simp [invokeAddress]

variable {g : Gateway} {base : Url}

/-- What a gateway has for a chain is below the address of the gateway, under the
name of the chain. -/
theorem LeadsTo.below (h : g.LeadsTo base) :
    ∃ start, base.path = .steps (start ++ [""]) ∧
      ∀ c : ChainId, c.IsStep → ∀ steps, Worded steps →
        Url.ofString (g.chainAddress c steps) = some { base with
          path := .steps (start ++ "channels" :: c.step :: steps) } := by
  have hread : Url.ofString (String.ofList (g.base.toList ++ ['/'])) = some base := by
    rw [← h.read]
    congr 1
    rw [← String.toList_inj, String.toList_ofList, String.toList_append]
    rfl
  obtain ⟨start, hstart, hbelow⟩ := Url.ofString_below hread h.place
  refine ⟨start, hstart, ?_⟩
  intro c hc steps hsteps
  have hall : ∀ t ∈ "channels".toList :: c.name.toList :: steps.map String.toList,
      Url.IsStep t := by
    rw [List.forall_mem_cons, List.forall_mem_cons, List.forall_mem_map]
    exact ⟨.of_alphanum (List.all_eq_true.1 (by decide)), hc, fun s hs => .of_alphanum (hsteps.words s hs)⟩
  have hlast : ∀ t ∈ ("channels".toList :: c.name.toList :: steps.map String.toList).getLast?,
      ∀ x ∈ t, 0x20 < x.toNat := by
    obtain ⟨s, rest, rfl⟩ := List.exists_cons_of_ne_nil hsteps.some
    intro t ht x hx
    rw [List.map_cons, List.getLast?_cons_cons, List.getLast?_cons_cons] at ht
    have hmem := List.mem_of_mem_getLast? ht
    rw [← List.map_cons] at hmem
    obtain ⟨s', hs', rfl⟩ := List.mem_map.1 hmem
    have hbounds := Percent.bounds_of_alphanum (hsteps.words s' hs' x hx)
    omega
  have hwritten : ∀ s ∈ steps,
      String.ofList (Percent.encode Percent.notInPath s.toList) = s := by
    intro s hs
    rw [Percent.encode_of_none fun x hx => Percent.notInPath_of_alphanum (hsteps.words s hs x hx),
      String.ofList_toList]
  have hrest := (List.map_congr_left hwritten).trans (List.map_id' steps)
  rw [chainAddress, List.map_cons, List.map_cons, hbelow _ _ hall hlast, List.map_cons,
    List.map_cons, List.map_map]
  simp only [Function.comp_def, hrest]
  rfl

/-- Below one address, the addresses of two chains lead to one path only if the
chains are the same, and what is asked for. -/
theorem LeadsTo.below_inj (h : g.LeadsTo base) {c d : ChainId} (hc : c.IsStep) (hd : d.IsStep)
    {steps steps' : List String} (hsteps : Worded steps) (hsteps' : Worded steps')
    (hsame : pathOf? (g.chainAddress c steps) = pathOf? (g.chainAddress d steps')) :
    c = d ∧ steps = steps' := by
  obtain ⟨start, -, hbelow⟩ := h.below
  have hslash {e : ChainId} (he : e.IsStep) {rest : List String} (hrest : Worded rest) :
      ∀ s ∈ "channels" :: e.step :: rest, '/' ∉ s.toList := by
    rw [List.forall_mem_cons, List.forall_mem_cons]
    refine ⟨by decide, ChainId.slash_not_mem_step he, ?_⟩
    intro s hs hmem
    exact absurd (hrest.words s hs '/' hmem) (by decide)
  -- What is before the steps of the chains is the same text, and they can be told apart.
  rw [pathOf?, pathOf?, hbelow c hc steps hsteps, hbelow d hd steps' hsteps',
    Option.map_some, Option.map_some, Option.some.injEq, UrlPath.text_append, UrlPath.text_append,
    String.append_right_inj] at hsame
  have hlists := UrlPath.steps_of_text hsame (hslash hc hsteps) (hslash hd hsteps')
  simp only [List.cons.injEq, true_and] at hlists
  exact ⟨ChainId.step_inj hc hd hlists.1, hlists.2⟩

theorem worded_blocks (n : Nat) : Worded ["blocks", toString n] where
  some := List.cons_ne_nil _ _
  words := by
    rw [List.forall_mem_cons, List.forall_mem_singleton]
    exact ⟨List.all_eq_true.1 (by decide), alphanum_digits n⟩

theorem worded_invoke : Worded ["invoke"] where
  some := List.cons_ne_nil _ _
  words := by
    rw [List.forall_mem_singleton]
    exact List.all_eq_true.1 (by decide)

/-- A gateway has the blocks and the calls of a chain below the steps of its own
address, under one step that stands for the name of the chain. -/
structure HasChain (g : Gateway) (base : Url) (start : List String) (c : ChainId) : Prop where
  named : Percent.decode c.step.toList = Utf8.encode c.name
  whole : '/' ∉ c.step.toList
  blocks : ∀ n, Url.ofString (g.blockAddress c n) = some { base with
    path := .steps (start ++ ["channels", c.step, "blocks", toString n.toNat]) }
  calls : Url.ofString (g.invokeAddress c) = some { base with
    path := .steps (start ++ ["channels", c.step, "invoke"]) }

/-- Chains whose names are single steps have their blocks and their calls below the
address of the gateway, each at a place of its own: no other block of any of these
chains, and the calls of no other one. -/
theorem channels_apart (h : g.LeadsTo base) :
    (∃ start, base.path = .steps (start ++ [""]) ∧
      ∀ c : ChainId, c.IsStep → g.HasChain base start c) ∧
    ∀ c d : ChainId, c.IsStep → d.IsStep →
      (∀ m n, pathOf? (g.blockAddress c m) = pathOf? (g.blockAddress d n) → c = d ∧ m = n) ∧
        (pathOf? (g.invokeAddress c) = pathOf? (g.invokeAddress d) → c = d) ∧
        ∀ n, pathOf? (g.blockAddress c n) ≠ pathOf? (g.invokeAddress d) := by
  simp only [blockAddress_eq, invokeAddress_eq]
  constructor
  · obtain ⟨start, hstart, hbelow⟩ := h.below
    refine ⟨start, hstart, fun c hc => ⟨c.decode_step hc, c.slash_not_mem_step hc, ?_, ?_⟩⟩
    · intro n
      rw [blockAddress_eq, hbelow c hc _ (worded_blocks n.toNat)]
    · rw [invokeAddress_eq, hbelow c hc _ worded_invoke]
  · intro c d hc hd
    refine ⟨?_, ?_, ?_⟩
    · intro m n hsame
      obtain ⟨hchain, hnumber⟩ :=
        h.below_inj hc hd (worded_blocks m.toNat) (worded_blocks n.toNat) hsame
      simp only [List.cons.injEq, and_true, true_and] at hnumber
      exact ⟨hchain, UInt64.toNat_inj.1 (toString_nat_inj hnumber)⟩
    · intro hsame
      exact (h.below_inj hc hd worded_invoke worded_invoke hsame).1
    · intro n hsame
      have hsteps := (h.below_inj hc hd (worded_blocks n.toNat) worded_invoke hsame).2
      exact absurd (List.cons.inj hsteps).1 (by decide)

/-- A gateway below a path of its host. -/
def nested : Gateway := ofAddress "http://localhost:80/api/"

/-- Where it leads. -/
def nestedBase : Url :=
  ⟨"http", some ⟨"", "", some (.name "localhost"), none⟩, .steps ["api", ""], none, none⟩

/-- Names with a blank and with a percent sign are steps of their own. -/
theorem marked_names_apart :
    nested.LeadsTo nestedBase ∧ (⟨"a b"⟩ : ChainId).IsStep ∧ (⟨"50%"⟩ : ChainId).IsStep ∧
      Url.ofString (nested.blockAddress ⟨"a b"⟩ 7) = some { nestedBase with
        path := .steps ["api", "channels", "a%20b", "blocks", "7"] } ∧
      pathOf? (nested.blockAddress ⟨"a b"⟩ 7) ≠ pathOf? (nested.blockAddress ⟨"50%"⟩ 7) ∧
      pathOf? (nested.invokeAddress ⟨"a b"⟩) ≠ pathOf? (nested.invokeAddress ⟨"50%"⟩) := by
  have hleads : nested.LeadsTo nestedBase := ⟨by decide +kernel, by decide, rfl, rfl⟩
  have hblank : (⟨"a b"⟩ : ChainId).IsStep := by decide +kernel
  have hpercent : (⟨"50%"⟩ : ChainId).IsStep := by decide +kernel
  obtain ⟨⟨start, hstart, hchains⟩, hapart⟩ := channels_apart hleads
  obtain ⟨hblock, hinvoke, -⟩ := hapart _ _ hblank hpercent
  have hsteps : ["api"] ++ [""] = start ++ [""] := UrlPath.steps.inj hstart
  obtain rfl : ["api"] = start := List.append_cancel_right hsteps
  refine ⟨hleads, hblank, hpercent, (hchains _ hblank).blocks 7, ?_, ?_⟩
  · exact fun hsame => absurd (hblock 7 7 hsame).1 (by decide)
  · exact fun hsame => absurd (hinvoke hsame) (by decide)

/-- A dot and a slash before the name of a chain make the name of another chain, and
lead to the blocks and the calls of the first. A question mark behind the name leads
to one place for all blocks. -/
theorem marked_names_lead_astray :
    (HubConfig.pair ⟨"./A"⟩).validate = .ok () ∧ (⟨"./A"⟩ : ChainId) ≠ ⟨"A"⟩ ∧
      pathOf? (nested.blockAddress ⟨"./A"⟩ 1) = some "/api/channels/A/blocks/1" ∧
      pathOf? (nested.blockAddress ⟨"A"⟩ 1) = some "/api/channels/A/blocks/1" ∧
      pathOf? (nested.invokeAddress ⟨"./A"⟩) = some "/api/channels/A/invoke" ∧
      pathOf? (nested.invokeAddress ⟨"A"⟩) = some "/api/channels/A/invoke" ∧
    (HubConfig.pair ⟨"A?"⟩).validate = .ok () ∧
      pathOf? (nested.blockAddress ⟨"A?"⟩ 1) = some "/api/channels/A" ∧
      pathOf? (nested.blockAddress ⟨"A?"⟩ 2) = some "/api/channels/A" := by
  decide +kernel

end Gateway

end RelayHub
