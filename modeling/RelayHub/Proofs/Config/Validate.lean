/-
What a configuration that is accepted looks like.

The checks go through namespaces and their chains one by one, and carry along the
names that they have come across. `Fresh` says what such a pass finds out about
a whole list: nothing is unnamed, and nothing is there twice. Names of namespaces
and names of chains are checked in one pass, but independently of each other.
-/
import Mathlib.Data.List.TakeWhile
import RelayHub.Config.Validate

set_option autoImplicit false

namespace RelayHub

/-! ## Items that are named and distinct -/

/-- Items that have names, are distinct, and are none of some earlier ones. -/
structure Fresh {α : Type} (unnamed : α → Bool) (seen items : List α) : Prop where
  named {x : α} : x ∈ items → unnamed x = false
  distinct : items.Nodup
  new {x : α} : x ∈ items → x ∉ seen

section Fresh

variable {α : Type} {unnamed : α → Bool} {seen : List α}

theorem fresh_nil : Fresh unnamed seen [] where
  named h := absurd h List.not_mem_nil
  distinct := List.nodup_nil
  new h := absurd h List.not_mem_nil

/-- A pass goes on with one more item that it has come across. -/
theorem fresh_cons {x : α} {items : List α} :
    Fresh unnamed seen (x :: items) ↔
      unnamed x = false ∧ x ∉ seen ∧ Fresh unnamed (x :: seen) items := by
  constructor
  · rintro ⟨hnamed, hdistinct, hnew⟩
    obtain ⟨hx, hdistinct⟩ := List.nodup_cons.1 hdistinct
    refine ⟨hnamed List.mem_cons_self, hnew List.mem_cons_self, ?_, hdistinct, ?_⟩
    · intro y hy
      exact hnamed (List.mem_cons_of_mem _ hy)
    · intro y hy hseen
      rcases List.mem_cons.1 hseen with rfl | hseen
      · exact hx hy
      · exact hnew (List.mem_cons_of_mem _ hy) hseen
  · rintro ⟨hx, hxnew, hnamed, hdistinct, hnew⟩
    refine ⟨?_, ?_, ?_⟩
    · intro y hy
      rcases List.mem_cons.1 hy with rfl | hy
      · exact hx
      · exact hnamed hy
    · refine List.nodup_cons.2 ⟨?_, hdistinct⟩
      intro hmem
      exact hnew hmem List.mem_cons_self
    · intro y hy hseen
      rcases List.mem_cons.1 hy with rfl | hy
      · exact hxnew hseen
      · exact hnew hy (List.mem_cons_of_mem _ hseen)

/-- A pass over two lists comes across the items of the first in reverse. -/
theorem fresh_append {items more : List α} :
    Fresh unnamed seen (items ++ more) ↔
      Fresh unnamed seen items ∧ Fresh unnamed (items.reverse ++ seen) more := by
  induction items generalizing seen with
  | nil => simp [fresh_nil]
  | cons x items ih =>
    rw [List.cons_append, fresh_cons, fresh_cons, ih, List.reverse_cons, List.append_assoc,
      List.singleton_append, and_assoc, and_assoc]

theorem fresh_iff {items : List α} :
    Fresh unnamed [] items ↔ (∀ x ∈ items, unnamed x = false) ∧ items.Nodup := by
  constructor
  · intro h
    exact ⟨fun x hx => h.named hx, h.distinct⟩
  · rintro ⟨hnamed, hdistinct⟩
    exact ⟨fun hx => hnamed _ hx, hdistinct, fun _ => List.not_mem_nil⟩

end Fresh

/-! ## Texts that are not blank -/

/-- A text with something to see in it. -/
def HasInk (s : String) : Prop :=
  ∃ c ∈ s.toList, Blank.isBlank c = false

theorem trimChars_eq_nil_iff {cs : List Char} :
    Blank.trimChars cs = [] ↔ ∀ c ∈ cs, Blank.isBlank c = true := by
  rw [Blank.trimChars, List.reverse_eq_nil_iff, List.dropWhile_eq_nil_iff]
  constructor
  · intro hall
    rw [← List.dropWhile_eq_nil_iff]
    -- What is left after the leading blanks would begin with something else.
    have hhead := List.head?_dropWhile_not Blank.isBlank cs
    cases hrest : cs.dropWhile Blank.isBlank with
    | nil => rfl
    | cons c rest =>
      rw [hrest] at hhead hall
      have hblank : Blank.isBlank c = true := hall c (by simp)
      simp [hblank] at hhead
  · intro hall c hc
    exact hall c (List.dropWhile_subset _ (List.mem_reverse.1 hc))

theorem HubConfig.hasKey_iff {source : KeySource} :
    hasKey source = true ↔ HasInk source.material := by
  have htrim : Blank.trim source.material = "" ↔ ∀ c ∈ source.material.toList,
      Blank.isBlank c = true := by
    rw [Blank.trim, String.ofList_eq_empty_iff, trimChars_eq_nil_iff]
  rw [hasKey, Bool.not_eq_true', Bool.eq_false_iff, ne_eq, String.isEmpty_iff, htrim, HasInk]
  simp

/-! ## Configurations -/

namespace HubConfig

variable {c : HubConfig}

/-- The names of all namespaces. -/
def names (c : HubConfig) : List String :=
  c.locals.map LocalNamespace.name ++ c.remotes.map RemoteNamespace.name

/-- The names of the chains of all local namespaces. -/
def localChannels (c : HubConfig) : List ChainId :=
  c.locals.flatMap localIds

/-- The names of all chains. -/
def channels (c : HubConfig) : List ChainId :=
  c.localChannels ++ c.remotes.flatMap RemoteNamespace.channels

/-- A configuration that keeps to what is asked of it: every namespace and every
chain has a name of its own, every namespace some text for its key, and there is
an address to listen on. -/
structure Coherent (c : HubConfig) : Prop where
  named : ∀ name ∈ c.names, name ≠ ""
  distinct : c.names.Nodup
  channelsNamed : ∀ id ∈ c.channels, id.name ≠ ""
  channelsDistinct : c.channels.Nodup
  secrets : ∀ ns ∈ c.locals, HasInk ns.key.material
  points : ∀ ns ∈ c.remotes, HasInk ns.key.material
  address : ∃ a, SocketAddress.ofString? c.listen = some a

theorem namespaces_names : c.namespaces.map Prod.fst = c.names := by
  rw [namespaces, names, List.map_append, List.map_map, List.map_map]
  rfl

theorem namespaces_channels : c.namespaces.flatMap Prod.snd = c.channels := by
  rw [namespaces, channels, localChannels, List.flatMap_append, List.flatMap_map, List.flatMap_map]

/-! ### The checks -/

theorem checkChannels_ok_iff {name : String} {seen ids all : List ChainId} :
    checkChannels name seen ids = .ok all ↔
      Fresh ChainId.isEmpty seen ids ∧ all = ids.reverse ++ seen := by
  induction ids generalizing seen with
  | nil => simp [checkChannels, fresh_nil, eq_comm]
  | cons id ids ih =>
    rw [checkChannels, fresh_cons, List.reverse_cons, List.append_assoc, List.singleton_append]
    split
    · rename_i hempty
      simp [hempty]
    · rename_i hnamed
      split
      · rename_i hseen
        simp [hseen]
      · rename_i hnew
        rw [ih]
        simp [hnamed, hnew]

theorem checkNames_ok_iff {names : List String} {ids : List ChainId}
    {namespaces : List (String × List ChainId)} :
    checkNames names ids namespaces = .ok () ↔
      Fresh String.isEmpty names (namespaces.map Prod.fst) ∧
        Fresh ChainId.isEmpty ids (namespaces.flatMap Prod.snd) := by
  -- The names that were seen grow by one with each namespace, those of chains by all of its
  -- chains.
  induction namespaces generalizing names ids with
  | nil => simp [checkNames, fresh_nil]
  | cons ns rest ih =>
    obtain ⟨name, channels⟩ := ns
    rw [List.map_cons, List.flatMap_cons, fresh_cons, fresh_append, checkNames]
    split
    · rename_i hempty
      simp [hempty]
    · rename_i hnamed
      split
      · rename_i hseen
        simp [hseen]
      · rename_i hnew
        cases hchannels : checkChannels name ids channels with
        | error e =>
          have hbad : ¬ Fresh ChainId.isEmpty ids channels := by
            intro hfresh
            have hok : checkChannels name ids channels = .ok (channels.reverse ++ ids) :=
              checkChannels_ok_iff.2 ⟨hfresh, rfl⟩
            rw [hchannels] at hok
            cases hok
          simp [bind, Except.bind, hbad]
        | ok all =>
          obtain ⟨hfresh, rfl⟩ := checkChannels_ok_iff.1 hchannels
          simp [bind, Except.bind, ih, hnamed, hnew, hfresh]

theorem checkKeys_ok_iff :
    c.checkKeys = .ok () ↔
      (∀ ns ∈ c.locals, HasInk ns.key.material) ∧ ∀ ns ∈ c.remotes, HasInk ns.key.material := by
  have hlocals : (c.locals.find? fun ns => !hasKey ns.key) = none ↔
      ∀ ns ∈ c.locals, HasInk ns.key.material := by
    simp [List.find?_eq_none, ← hasKey_iff]
  have hremotes : (c.remotes.find? fun ns => !hasKey ns.key) = none ↔
      ∀ ns ∈ c.remotes, HasInk ns.key.material := by
    simp [List.find?_eq_none, ← hasKey_iff]
  rw [← hlocals, ← hremotes, checkKeys]
  cases c.locals.find? fun ns => !hasKey ns.key <;>
    cases c.remotes.find? fun ns => !hasKey ns.key <;> simp

theorem listenAddress_ok_iff {a : SocketAddress} :
    c.listenAddress = .ok a ↔ SocketAddress.ofString? c.listen = some a := by
  rw [listenAddress]
  cases SocketAddress.ofString? c.listen <;> simp

/-- A configuration is accepted exactly if it keeps to what is asked of it. -/
theorem validate_ok_iff : c.validate = .ok () ↔ c.Coherent := by
  have hnames : checkNames [] [] c.namespaces = .ok () ↔
      ((∀ name ∈ c.names, name ≠ "") ∧ c.names.Nodup) ∧
        (∀ id ∈ c.channels, id.name ≠ "") ∧ c.channels.Nodup := by
    rw [checkNames_ok_iff, namespaces_names, namespaces_channels, fresh_iff, fresh_iff]
    simp [ChainId.isEmpty, ← Bool.not_eq_true, String.isEmpty_iff]
  have hvalidate : c.validate = .ok () ↔
      checkNames [] [] c.namespaces = .ok () ∧ c.checkKeys = .ok () ∧
        ∃ a, c.listenAddress = .ok a := by
    unfold validate
    cases checkNames [] [] c.namespaces <;> cases c.checkKeys <;> cases c.listenAddress <;>
      simp [bind, Except.bind, pure, Except.pure]
  rw [hvalidate, hnames, checkKeys_ok_iff]
  simp only [listenAddress_ok_iff]
  constructor
  · rintro ⟨⟨⟨hnamed, hdistinct⟩, hids, hidsDistinct⟩, ⟨hsecrets, hpoints⟩, haddress⟩
    exact ⟨hnamed, hdistinct, hids, hidsDistinct, hsecrets, hpoints, haddress⟩
  · rintro ⟨hnamed, hdistinct, hids, hidsDistinct, hsecrets, hpoints, haddress⟩
    exact ⟨⟨⟨hnamed, hdistinct⟩, hids, hidsDistinct⟩, ⟨hsecrets, hpoints⟩, haddress⟩

end HubConfig

end RelayHub
