/-
Every chain has a store of its own, if the names of chains are single steps of a
path.

The directory of a store is found by its chain's name below the directory of all
stores. A name that is one step leads to a directory that no other such name leads
to, wherever the directory of all stores is. What is done to one store then leaves
the files of all others alone, so each of them answers as if it were the only one.

Names are compared as texts, though, and a name may also be a longer path. Two
different names can lead to one directory, and their stores then overwrite each
other.

The files are those of a tree, which is what lies below the working directory. A
directory of all stores that is given by an absolute path, or by one that leads out of
the working directory, is not in the tree, so no store is ever opened there and nothing
is said about it here.
-/
import RelayHub.Node.Start
import RelayHub.Proofs.Node.Setup
import RelayHub.Proofs.Store.Beside

set_option autoImplicit false

namespace RelayHub

open RelayHub.Action FileStore

namespace HubNode

/-! ## Stores and what happens to them -/

/-- The path of the file of the store of a chain. -/
def storePathOf (n : HubNode) (chain : ChainId) : Path :=
  .ofString (n.storeFile chain)

/-- Opens the stores of some chains one after the other, up to the first that cannot
be. -/
def openStores {φ : Type} (files : FileSystem φ) (n : HubNode) :
    List ChainId → Action φ StartError (List (ChainId × FileStore))
  | [] => return []
  | chain :: chains => do
    let store ← n.openStore files chain
    let stores ← openStores files n chains
    return (chain, store) :: stores

/-- Something happens to the store of one of some chains, which share the files. -/
inductive Happens (n : HubNode) (chains : List ChainId) :
    FileTree × (ChainId → Option FileStore) → ChainId × Event →
      FileTree × (ChainId → Option FileStore) → Prop where
  | ofChain {t t' : FileTree} {stores : ChainId → Option FileStore} {chain : ChainId} {e : Event}
      {x : Option FileStore} (hchain : chain ∈ chains)
      (h : FileStore.Happens FileTree.system FileTree.Torn (n.storePathOf chain) (t, stores chain) e
        (t', x)) :
      Happens n chains (t, stores) (chain, e) (t', fun c => if c = chain then x else stores c)

/-- The events of one chain. -/
def eventsOf (chain : ChainId) (events : List (ChainId × Event)) : List Event :=
  (events.filter fun e => e.1 = chain).map Prod.snd

theorem eventsOf_cons_self (chain : ChainId) (e : Event) (events : List (ChainId × Event)) :
    eventsOf chain ((chain, e) :: events) = e :: eventsOf chain events := by
  simp [eventsOf]

theorem eventsOf_cons_ne {chain c : ChainId} (h : chain ≠ c) (e : Event)
    (events : List (ChainId × Event)) :
    eventsOf c ((chain, e) :: events) = eventsOf c events := by
  simp [eventsOf, h]

/-! ## Directories of stores -/

/-- The steps to the directory of all stores. -/
def baseSteps (n : HubNode) : List String :=
  (Path.ofString n.storePath).steps

variable {n : HubNode} {base : List String} {chains : List ChainId} {chain c : ChainId}
  {t t' : FileTree}

/-- A tree in which the directory of a chain is there, below that of all stores, and
the file of its store is in it, or may be. -/
structure Placed (n : HubNode) (base : List String) (chain : ChainId) (t : FileTree) : Prop where
  own : t.Leads (n.baseSteps ++ [chain.name]) (base ++ [chain.name])
  located : t.locate (n.storePathOf chain) = .ok (.inside (base ++ [chain.name] ++ ["blocks.db"]))

theorem Placed.keeps (hkeeps : t.Keeps t') (h : n.Placed base chain t) :
    n.Placed base chain t' where
  own := hkeeps.leads h.own
  located := hkeeps.locate h.located

/-- A tree with places for the stores of some chains. -/
def Prepared (n : HubNode) (base : List String) (chains : List ChainId) (t : FileTree) : Prop :=
  ∀ chain ∈ chains, n.Placed base chain t

theorem prepared_preserved (n : HubNode) (base : List String) (chains : List ChainId) :
    FileTree.system.Preserves FileTree.Torn (n.Prepared base chains) :=
  FileTree.preserves_of_keeps fun _ _ hkeeps h chain hchain => (h chain hchain).keeps hkeeps

/-- The name of the file of every store. -/
theorem isStep_storeName : Path.IsStep "blocks.db" :=
  ⟨by decide, by decide, by decide, by decide⟩

theorem storeDirectory_steps (hchain : Path.IsStep chain.name) :
    (Path.ofString (n.storeDirectory chain)).steps = n.baseSteps ++ [chain.name] :=
  Path.steps_join hchain

theorem storePathOf_in (hchain : Path.IsStep chain.name)
    (hrelative : (Path.ofString n.storePath).absolute = false) :
    (n.storePathOf chain).In (n.baseSteps ++ [chain.name]) "blocks.db" where
  relative := by
    rw [storePathOf, storeFile, Path.absolute_join isStep_storeName, storeDirectory,
      Path.absolute_join hchain, hrelative]
  steps := by
    rw [storePathOf, storeFile, Path.steps_join isStep_storeName, storeDirectory_steps hchain]
  ending := Path.ending_join isStep_storeName
  down := isStep_storeName.down

theorem temporary_in (h : (n.storePathOf chain).In (n.baseSteps ++ [chain.name]) "blocks.db") :
    ((n.storePathOf chain).withExtension "tmp").In (n.baseSteps ++ [chain.name]) "blocks.tmp" :=
  h.withExtension (by decide) (by decide)

theorem storePathOf_extension
    (h : (n.storePathOf chain).In (n.baseSteps ++ [chain.name]) "blocks.db") :
    (n.storePathOf chain).extension? ≠ some "tmp" := by
  rw [Path.extension?, Path.name?, h.steps, List.getLast?_concat]
  decide

/-- What is in the directory of one chain is not in that of another. -/
theorem not_below_other (hne : chain ≠ c) :
    ¬ base ++ [chain.name] <+: base ++ [c.name] ++ ["blocks.db"] := by
  intro h
  rw [List.append_assoc, List.prefix_append_right_inj] at h
  have hname : chain.name = c.name := (List.cons_prefix_cons.1 h).1
  rw [← ChainId.mk.injEq] at hname
  exact hne hname

/-! ## Opening -/

/-- A store that has been opened: it is in the directory of its chain below the
directory of all stores, and holds what its file holds. -/
structure Opened (n : HubNode) (base : List String) (chain : ChainId) (store : FileStore)
    (t : FileTree) : Prop where
  root : t.Leads n.baseSteps base
  placed : n.Placed base chain t
  inside : (n.storePathOf chain).In (n.baseSteps ++ [chain.name]) "blocks.db"
  file : t.node? (base ++ [chain.name] ++ ["blocks.db"]) ≠ some .directory
  path : store.path = n.storePathOf chain
  fits : store.entries.Fits
  holds : Holds (t.held (n.storePathOf chain)) store.entries

/-- A store stays open for as long as directories stay and its file does. -/
theorem Opened.keeps {store : FileStore} (hkeeps : t.Keeps t')
    (hnode : t'.node? (base ++ [chain.name] ++ ["blocks.db"])
      = t.node? (base ++ [chain.name] ++ ["blocks.db"]))
    (h : n.Opened base chain store t) : n.Opened base chain store t' where
  root := hkeeps.leads h.root
  placed := h.placed.keeps hkeeps
  inside := h.inside
  file := by
    rw [hnode]
    exact h.file
  path := h.path
  fits := h.fits
  holds := by
    rw [h.placed.own.held_eq (hkeeps.leads h.placed.own) h.inside hnode]
    exact h.holds

/-- To open a store, the directory of its chain is made, and then its file read. -/
theorem of_openStore {store : FileStore}
    (h : (n.openStore FileTree.system chain).perform t = (.ok store, t')) :
    (∃ depth,
      FileTree.makeDirectories depth (.ofString (n.storeDirectory chain)) t = (.ok (), t')) ∧
      (openAt FileTree.system (n.storePathOf chain)).perform t' = (.ok store, t') := by
  rw [openStore] at h
  rcases of_perform_bind h with ⟨_, -, ⟨⟩⟩ | ⟨_, t₁, hmake, hopen⟩
  have hfile : (openAt FileTree.system (n.storePathOf chain)).perform t₁ = (.ok store, t') :=
    of_perform_mapError_ok hopen
  obtain rfl := openAt_system hfile
  exact ⟨⟨_, of_perform_mapError_ok hmake⟩, hfile⟩

theorem keeps_of_openStore {store : FileStore}
    (h : (n.openStore FileTree.system chain).perform t = (.ok store, t')) : t.Keeps t' := by
  obtain ⟨⟨depth, hmake⟩, -⟩ := of_openStore h
  have hkeeps := FileTree.keeps_makeDirectories depth (.ofString (n.storeDirectory chain)) t
  rw [hmake] at hkeeps
  exact hkeeps

section OpenStore

variable (hchain : Path.IsStep chain.name) {store : FileStore}
  (h : (n.openStore FileTree.system chain).perform t = (.ok store, t'))
include hchain h

theorem opened_of_openStore : ∃ base, n.Opened base chain store t' := by
  obtain ⟨⟨depth, hmake⟩, hfile⟩ := of_openStore h
  obtain ⟨hpath, hholds, hread⟩ := of_openAt_system hfile
  have htext : (Path.ofString (n.storeDirectory chain)).text.isEmpty = false :=
    Path.text_join hchain
  have hthere := FileTree.isDirectory_makeDirectories htext (congrArg Prod.fst hmake)
  rw [hmake] at hthere
  obtain ⟨habsolute, base, hroot, hown⟩ :=
    FileTree.leads_of_isDirectory hchain.down (storeDirectory_steps hchain) hthere
  rw [storeDirectory, Path.absolute_join hchain] at habsolute
  have hinside := storePathOf_in hchain habsolute
  have hlocated : t'.locate (n.storePathOf chain)
      = .ok (.inside (base ++ [chain.name] ++ ["blocks.db"])) := by
    -- The file was read or was missing, and in a directory that is there no step on the
    -- way to it is missing.
    rcases hspot : t'.locate (n.storePathOf chain) with e | spot
    · have hmissing : e = .notFound := by
        apply hread
        rw [FileTree.read, hspot]
        rfl
      rw [hmissing] at hspot
      exact absurd hspot (hown.locate_ne_notFound hinside (Path.text_join isStep_storeName))
    · rw [hown.of_locate hinside hspot]
  have hfile := FileTree.ne_directory_of_read hlocated hread
  exact ⟨base, hroot, ⟨hown, hlocated⟩, hinside, hfile, hpath, fits_of_holds hholds, hholds⟩

/-- If the directory of all stores is there, opening a store makes at most the
directory of its chain. -/
theorem node?_of_openStore (hroot : t.Leads n.baseSteps base) {place : List String}
    (hplace : place ≠ base ++ [chain.name]) : t'.node? place = t.node? place := by
  obtain ⟨_, hopened⟩ := opened_of_openStore hchain h
  obtain ⟨⟨depth, hmake⟩, -⟩ := of_openStore h
  have hrelative : (Path.ofString (n.storeDirectory chain)).absolute = false := by
    have habsolute := hopened.inside.relative
    rw [storePathOf, storeFile, Path.absolute_join isStep_storeName] at habsolute
    exact habsolute
  have hchild : (Path.ofString (n.storeDirectory chain)).In n.baseSteps chain.name :=
    ⟨hrelative, storeDirectory_steps hchain, Path.ending_join hchain, hchain.down⟩
  have hsame := hroot.node?_makeDirectories hchild depth hplace
  rw [hmake] at hsame
  exact hsame

end OpenStore

/-- The stores of some chains are all below one directory, with a directory for each,
and opening them makes at most these. -/
theorem of_openStores {stores : List (ChainId × FileStore)}
    (hchains : ∀ c ∈ chains, Path.IsStep c.name)
    (h : (n.openStores FileTree.system chains).perform t = (.ok stores, t')) :
    stores.map Prod.fst = chains ∧ t.Keeps t' ∧
      (∃ base, ∀ e ∈ stores, n.Opened base e.1 e.2 t') ∧
      ∀ base, t.Leads n.baseSteps base → ∀ place, (∀ c ∈ chains, place ≠ base ++ [c.name]) →
        t'.node? place = t.node? place := by
  -- The first store that is opened says where the directory of all stores is, and the
  -- last part of the statement is what keeps its file while the others are opened.
  induction chains generalizing t stores with
  | nil =>
    cases h
    refine ⟨rfl, FileTree.keeps_self, ⟨[], ?_⟩, fun _ _ _ _ => rfl⟩
    intro e he
    exact absurd he List.not_mem_nil
  | cons chain rest ih =>
    rw [openStores] at h
    rcases of_perform_bind h with ⟨_, -, ⟨⟩⟩ | ⟨store, t₁, hfirst, h⟩
    rcases of_perform_bind h with ⟨_, -, ⟨⟩⟩ | ⟨others, t₂, hrest, hdone⟩
    cases hdone
    have hchain := hchains chain List.mem_cons_self
    have hothers : ∀ c ∈ rest, Path.IsStep c.name := by
      intro c hc
      exact hchains c (List.mem_cons_of_mem _ hc)
    have hkeeps := keeps_of_openStore hfirst
    obtain ⟨base, hopened⟩ := opened_of_openStore hchain hfirst
    obtain ⟨hfst, hkeeps', ⟨base', hopened'⟩, hframe⟩ := ih hothers hrest
    have hroot := hkeeps'.leads hopened.root
    refine ⟨by rw [List.map_cons, hfst], hkeeps.trans hkeeps', ⟨base, ?_⟩, ?_⟩
    · intro e he
      rcases List.mem_cons.1 he with rfl | he
      · -- The later stores have left the file of this one alone.
        apply hopened.keeps hkeeps'
        apply hframe base hopened.root
        intro c hc heq
        have hlength := congrArg List.length heq
        simp at hlength
      · -- The directory of all stores is where it was for the first one.
        obtain rfl : base' = base := (hopened' e he).root.unique hroot
        exact hopened' e he
    · intro base₀ hbase₀ place hplace
      rw [hframe base₀ (hkeeps.leads hbase₀) place fun c hc => hplace c (List.mem_cons_of_mem _ hc)]
      exact node?_of_openStore hchain hfirst hbase₀ (hplace chain List.mem_cons_self)

/-! ## Runs -/

/-- A state with places for the stores of some chains, in which no directory is in the
place of a file, and the stores that are open are those of their files. -/
structure Guarded (n : HubNode) (base : List String) (chains : List ChainId)
    (u : FileTree × (ChainId → Option FileStore)) : Prop where
  prepared : n.Prepared base chains u.1
  inside : ∀ c ∈ chains, (n.storePathOf c).In (n.baseSteps ++ [c.name]) "blocks.db"
  files : ∀ c ∈ chains, u.1.node? (base ++ [c.name] ++ ["blocks.db"]) ≠ some .directory
  paths : ∀ c ∈ chains, ∀ store, u.2 c = some store → store.path = n.storePathOf c

section Runs

variable {u u' : FileTree × (ChainId → Option FileStore)} {e : Event} {m : ByteMap}

/-- What happens to the store of one chain, among the trees with places for all. -/
theorem Guarded.happens {stores : ChainId → Option FileStore} {x : Option FileStore}
    (hguarded : n.Guarded base chains (t, stores))
    (h : FileStore.Happens FileTree.system FileTree.Torn (n.storePathOf chain) (t, stores chain) e
      (t', x)) :
    ∃ hprepared' : n.Prepared base chains t',
      FileStore.Happens (FileTree.system.restrict (prepared_preserved n base chains))
        (FileSystem.tornIn FileTree.Torn (n.Prepared base chains)) (n.storePathOf chain)
        (⟨t, hguarded.prepared⟩, stores chain) e (⟨t', hprepared'⟩, x) :=
  h.restrict (prepared_preserved n base chains) hguarded.prepared

/-- What happens to one store leaves the file of another one alone. -/
theorem Guarded.node?_other {stores : ChainId → Option FileStore} {x : Option FileStore}
    (hguarded : n.Guarded base chains (t, stores)) (hchain : chain ∈ chains) (hne : chain ≠ c)
    (h : FileStore.Happens FileTree.system FileTree.Torn (n.storePathOf chain) (t, stores chain) e
      (t', x)) :
    t'.node? (base ++ [c.name] ++ ["blocks.db"]) = t.node? (base ++ [c.name] ++ ["blocks.db"]) := by
  obtain ⟨hprepared', h⟩ := hguarded.happens h
  have hinside := hguarded.inside chain hchain
  exact node?_of_happens (prepared_preserved n base chains) (fun t ht => (ht chain hchain).own)
    hinside (temporary_in hinside) (hguarded.paths chain hchain) h (not_below_other hne)

/-- What happens to one store leaves the places and the paths of all. -/
theorem guarded_of_happens (hguarded : n.Guarded base chains u)
    (h : n.Happens chains u (chain, e) u') : n.Guarded base chains u' := by
  cases h with
  | @ofChain t t' stores _ _ x hchain h =>
    have hinside := hguarded.inside chain hchain
    obtain ⟨hprepared', hrestricted⟩ := hguarded.happens h
    refine ⟨hprepared', hguarded.inside, ?_, ?_⟩
    · intro c hc
      by_cases hsame : chain = c
      · subst hsame
        have hdirectory := directory_of_happens (prepared_preserved n base chains)
          (fun t ht => (ht chain hchain).own) hinside (temporary_in hinside)
          (hguarded.paths chain hchain) hrestricted (by decide)
        intro hnode
        exact hguarded.files chain hc (hdirectory ▸ hnode)
      · dsimp only
        rw [hguarded.node?_other hchain hsame h]
        exact hguarded.files c hc
    · intro c hc store hstore
      dsimp only at hstore
      split at hstore
      · rename_i hsame
        rw [hsame]
        exact path_of_happens (hguarded.paths chain hchain) h store hstore
      · exact hguarded.paths c hc store hstore

/-- A store stays in step with a map in memory through what happens to itself, and can
be opened again at any time. -/
theorem inStep_of_own (hguarded : n.Guarded base chains u)
    (hstep : InStep FileTree.held (n.storePathOf chain) (u.1, u.2 chain) m)
    (hfits : (m.insertAll e.added).Fits) (h : n.Happens chains u (chain, e) u') :
    ∃ m', Remembers (fun _ => False) m e m' ∧
      InStep FileTree.held (n.storePathOf chain) (u'.1, u'.2 chain) m' := by
  cases h with
  | @ofChain t t' stores _ _ x hchain h =>
    have hinside := hguarded.inside chain hchain
    have hplaced := hguarded.prepared chain hchain
    have hopens : ∀ error, e ≠ .opened (.error error) := by
      rintro error rfl
      have hopen := openAt_of_holds hinside hplaced.located (hguarded.files chain hchain) hstep.file
      rw [of_unopened h] at hopen
      cases hopen
    -- A file can be replaced safely in the trees that keep its directory, so what is known
    -- of a single store holds here.
    have hfiles := FileTree.orderly_in (prepared_preserved n base chains)
      (fun t ht => (ht chain hchain).own) hinside (temporary_in hinside) (by decide)
    have hstep' : InStep (fun (s : { t // n.Prepared base chains t }) p => s.1.held p)
        (n.storePathOf chain) (⟨t, hguarded.prepared⟩, stores chain) m := ⟨hstep.file, hstep.store⟩
    obtain ⟨hprepared', hrestricted⟩ := hguarded.happens h
    obtain ⟨m', hm', hfile, hstore⟩ :=
      inStep_of_happens hfiles (storePathOf_extension hinside) hstep' hfits hrestricted
    refine ⟨m', hm'.always hopens, hfile, ?_⟩
    intro store heq
    apply hstore
    dsimp only at heq
    rw [if_pos rfl] at heq
    exact heq

/-- It does so too through what happens to others. -/
theorem inStep_of_other {other : ChainId} (hguarded : n.Guarded base chains u)
    (hne : other ≠ chain) (hchain : chain ∈ chains)
    (hstep : InStep FileTree.held (n.storePathOf chain) (u.1, u.2 chain) m)
    (h : n.Happens chains u (other, e) u') :
    InStep FileTree.held (n.storePathOf chain) (u'.1, u'.2 chain) m := by
  have hguarded' := guarded_of_happens hguarded h
  cases h with
  | @ofChain t t' stores _ _ x hmem h =>
    have hheld : t'.held (n.storePathOf chain) = t.held (n.storePathOf chain) :=
      (hguarded.prepared chain hchain).own.held_eq (hguarded'.prepared chain hchain).own
        (hguarded.inside chain hchain) (hguarded.node?_other hmem hne h)
    refine ⟨?_, ?_⟩
    · rw [hheld]
      exact hstep.file
    · intro store heq
      apply hstep.store
      dsimp only at heq
      rw [if_neg hne.symm] at heq
      exact heq

/-- In a run of all stores, one of them answers as a map in memory does that only its
own writes are made to. -/
theorem remembers_of_run (hguarded : n.Guarded base chains u) (hchain : chain ∈ chains)
    (hstep : InStep FileTree.held (n.storePathOf chain) (u.1, u.2 chain) m)
    {events : List (ChainId × Event)} (hroom : Room m (eventsOf chain events))
    (h : Run (n.Happens chains) u events) :
    Run (Remembers fun _ => False) m (eventsOf chain events) := by
  -- By induction on the run: an event of the chain itself is one of its map, and an event
  -- of another chain leaves file and store in step with the same map.
  induction h generalizing m with
  | nil => exact .nil m
  | @cons u u' event events hfirst _ ih =>
    obtain ⟨other, e⟩ := event
    have hguarded' := guarded_of_happens hguarded hfirst
    by_cases hother : other = chain
    · subst hother
      rw [eventsOf_cons_self] at hroom ⊢
      obtain ⟨m', hm', hstep'⟩ := inStep_of_own hguarded hstep hroom.insertAll hfirst
      exact .cons hm' (ih hguarded' hstep' (hroom.tail hm'))
    · rw [eventsOf_cons_ne hother] at hroom ⊢
      exact ih hguarded' (inStep_of_other hguarded hother hchain hstep hfirst) hroom

end Runs

/-! ## Stores of a configuration -/

theorem storePath_of_ofConfig {suite : Suite} {files : TextFiles} {c : HubConfig}
    (h : ofConfig suite files c = .ok n) : n.storePath = c.storePath := by
  rw [ofConfig] at h
  rcases htrust : c.trustStore suite files with e | trust <;> rw [htrust] at h
  · cases h
  rcases hregistry : c.registry with e | registry <;> rw [hregistry] at h
  · cases h
  rcases hlisten : c.listenAddress with e | listen <;> rw [hlisten] at h
  · cases h
  cases h
  rfl

/-- Chains of an accepted configuration whose names are single steps of a path have
stores of their own, once these could be opened, which they can be only where the
directory of all stores is in the working directory. Each is in a file below the
directory of all stores that no other of them is in. Whatever happens to them all, each
answers as a map in memory does that only its own writes are made to, and can be opened
again at any time. -/
theorem stores_apart {suite : Suite} {files : TextFiles} {c : HubConfig}
    {stores : List (ChainId × FileStore)} (hvalid : c.validate = .ok ())
    (hnode : ofConfig suite files c = .ok n) (hlocal : ∀ chain ∈ chains, chain ∈ c.localChannels)
    (hstep : ∀ chain ∈ chains, '/' ∉ chain.name.toList ∧ chain.name ≠ "." ∧ chain.name ≠ "..")
    (hopen : (n.openStores FileTree.system chains).perform t = (.ok stores, t')) :
    ∃ base, ∀ chain ∈ chains, t'.Leads (Path.ofString c.storePath).steps base ∧
      t'.locate (n.storePathOf chain) = .ok (.inside (base ++ [chain.name, "blocks.db"])) ∧
      (∀ other ∈ chains,
        t'.locate (n.storePathOf other) = t'.locate (n.storePathOf chain) → other = chain) ∧
      ∃ store, stores.lookup chain = some store ∧
        ∀ events, Run (n.Happens chains) (t', fun chain => stores.lookup chain) events →
          (∀ entry ∈ (eventsOf chain events).flatMap Event.added, ByteMap.FitsEntry entry) →
          store.entries.size + ((eventsOf chain events).flatMap Event.added).length
            < UInt64.size →
          Run (Remembers fun _ => False) store.entries (eventsOf chain events) := by
  have hchains : ∀ chain ∈ chains, Path.IsStep chain.name := by
    intro chain hchain
    obtain ⟨hwhole, hmoves, hdown⟩ := hstep chain hchain
    have hnamed := (HubConfig.validate_ok_iff.1 hvalid).channelsNamed chain
      (List.mem_append_left _ (hlocal chain hchain))
    exact ⟨hnamed, hwhole, hmoves, hdown⟩
  obtain ⟨hfst, -, ⟨base, hopened⟩, -⟩ := of_openStores hchains hopen
  have hfound {chain : ChainId} (hchain : chain ∈ chains) :
      ∃ store, stores.lookup chain = some store ∧ n.Opened base chain store t' := by
    rw [← hfst, ← isSome_lookup_iff, Option.isSome_iff_exists] at hchain
    obtain ⟨store, hstore⟩ := hchain
    exact ⟨store, hstore, hopened _ (mem_of_lookup hstore)⟩
  have hguarded : n.Guarded base chains (t', fun chain => stores.lookup chain) := by
    refine ⟨?_, ?_, ?_, ?_⟩
    · intro chain hchain
      obtain ⟨_, -, hstore⟩ := hfound hchain
      exact hstore.placed
    · intro chain hchain
      obtain ⟨_, -, hstore⟩ := hfound hchain
      exact hstore.inside
    · intro chain hchain
      obtain ⟨_, -, hstore⟩ := hfound hchain
      exact hstore.file
    · intro chain hchain store hlookup
      obtain ⟨_, hsame, hstore⟩ := hfound hchain
      dsimp only at hlookup
      rw [hsame] at hlookup
      cases hlookup
      exact hstore.path
  refine ⟨base, ?_⟩
  intro chain hchain
  obtain ⟨store, hlookup, hstore⟩ := hfound hchain
  refine ⟨?_, ?_, ?_, store, hlookup, ?_⟩
  · rw [← storePath_of_ofConfig hnode]
    exact hstore.root
  · rw [hstore.placed.located, List.append_assoc]
    rfl
  · intro other hother hplace
    obtain ⟨_, -, hstore'⟩ := hfound hother
    rw [hstore.placed.located, hstore'.placed.located] at hplace
    have hname : other.name = chain.name := by simpa using hplace
    rw [← ChainId.mk.injEq] at hname
    exact hname
  · intro events hrun hadded hsize
    refine remembers_of_run hguarded hchain ⟨hstore.holds, ?_⟩ ⟨hstore.fits, hadded, hsize⟩ hrun
    intro store' hsame
    dsimp only at hsame
    rw [hlookup] at hsame
    cases hsame
    rw [← hstore.path]

end HubNode

/-! ### Two chains of one hub -/

/-- No key is in a file. -/
def HubConfig.noFiles : TextFiles := fun _ => .error .notFound

/-- A configuration with two chains, the second of which may have any name. -/
def HubConfig.pair (second : ChainId) : HubConfig where
  storePath := "db"
  listen := "127.0.0.1:7051"
  timeoutSeconds := 30
  locals := [
    { name := "east", gateway := "http://localhost:80",
      key := ⟨.sm2, "0101010101010101010101010101010101010101010101010101010101010101"⟩,
      channels := [⟨⟨"A"⟩, "router", "proxy"⟩, ⟨second, "router", "proxy"⟩] }]
  remotes := []

namespace HubNode

/-- The key of the chains. -/
def pairKey : ChainKey :=
  .signing .sm2 0x0101010101010101010101010101010101010101010101010101010101010101

/-- The hub of this configuration. -/
def pair (second : ChainId) : HubNode where
  registry := ⟨[(⟨"A"⟩, .hosted ⟨"router", "proxy"⟩), (second, .hosted ⟨"router", "proxy"⟩)]⟩
  trust := ⟨[(⟨"A"⟩, pairKey), (second, pairKey)]⟩
  gateways := [(⟨"A"⟩, ⟨"http://localhost:80"⟩), (second, ⟨"http://localhost:80"⟩)]
  timeout := 30000
  storePath := "db"
  listen := .short [127, 0, 0, 1] 7051

/-- The stores of both chains, with nothing in them. -/
def pairStores (second : ChainId) : List (ChainId × FileStore) :=
  [(⟨"A"⟩, ⟨(pair second).storePathOf ⟨"A"⟩, .empty⟩),
    (second, ⟨(pair second).storePathOf second, .empty⟩)]

/-- A tree with directories for some chains, and what the files in them hold. -/
def treeOf (directories : List String) (files : List (String × ByteMap)) : FileTree :=
  ⟨(["db"], .directory) :: directories.map (fun name => (["db", name], .directory)) ++
    files.map fun f => (["db", f.1, "blocks.db"], .file f.2.encode)⟩

/-- The stores of both chains are written, the first before the second, and then the
first is opened again and read. -/
def turns (second : ChainId) (own other : Option Bytes) : List (ChainId × Event) :=
  [(⟨"A"⟩, .changed (.put [1] [2]) (.ok ())), (second, .changed (.put [3] [4]) (.ok ())),
    (⟨"A"⟩, .opened (.ok ())), (⟨"A"⟩, .got [1] (.ok own)), (⟨"A"⟩, .got [3] (.ok other))]

/-- What happens to the store that is open for a chain. -/
theorem happens_of_open {n : HubNode} {chains : List ChainId} {chain : ChainId} {t t' : FileTree}
    {stores : ChainId → Option FileStore} {store : FileStore} {x : Option FileStore} {e : Event}
    (hchain : chain ∈ chains) (hstore : stores chain = some store)
    (h : FileStore.Happens FileTree.system FileTree.Torn (n.storePathOf chain) (t, some store) e
      (t', x)) :
    n.Happens chains (t, stores) (chain, e) (t', fun c => if c = chain then x else stores c) := by
  rw [← hstore] at h
  exact .ofChain hchain h

section Turns

variable {second : ChainId} {t : FileTree} {own other : Option Bytes}

/-- How the stores are written and read in turns: what the trees are after the writes,
and what the first store is opened with. -/
theorem turns_happen (t₁ t₂ : FileTree) (m : ByteMap) (hne : second ≠ ⟨"A"⟩)
    (hfirst : ((Change.put [1] [2]).on (backend FileTree.system)).perform
      (t, ⟨(pair second).storePathOf ⟨"A"⟩, .empty⟩)
      = (.ok (), t₁, ⟨(pair second).storePathOf ⟨"A"⟩, ByteMap.empty.insert [1] [2]⟩))
    (hsecond : ((Change.put [3] [4]).on (backend FileTree.system)).perform
      (t₁, ⟨(pair second).storePathOf second, .empty⟩)
      = (.ok (), t₂, ⟨(pair second).storePathOf second, ByteMap.empty.insert [3] [4]⟩))
    (hopen : (openAt FileTree.system ((pair second).storePathOf ⟨"A"⟩)).perform t₂
      = (.ok ⟨(pair second).storePathOf ⟨"A"⟩, m⟩, t₂))
    (hown : m.get? [1] = own) (hother : m.get? [3] = other) :
    Run ((pair second).Happens [⟨"A"⟩, second])
      (t, fun chain => (pairStores second).lookup chain) (turns second own other) := by
  subst hown hother
  have hhead : (⟨"A"⟩ : ChainId) ∈ [⟨"A"⟩, second] := List.mem_cons_self
  have hlast : second ∈ [⟨"A"⟩, second] := List.mem_cons_of_mem _ List.mem_cons_self
  refine .cons (happens_of_open hhead rfl (.changed hfirst)) ?_
  refine .cons (happens_of_open hlast ?_ (.changed hsecond)) ?_
  · have hbeq : (second == (⟨"A"⟩ : ChainId)) = false := beq_eq_false_iff_ne.2 hne
    rw [if_neg hne]
    simp [pairStores, List.lookup_cons, hbeq]
  refine .cons (.ofChain hhead (.opened hopen)) ?_
  refine .cons (happens_of_open hhead (if_pos rfl) (.got rfl)) ?_
  refine .cons (happens_of_open hhead (if_pos rfl) (.got rfl)) ?_
  exact .nil _

end Turns

/-- A name that is one step: what the chains have written, they have each for
themselves. -/
theorem turns_apart :
    (HubConfig.pair ⟨"B"⟩).validate = .ok () ∧
      ofConfig Suite.standard HubConfig.noFiles (HubConfig.pair ⟨"B"⟩) = .ok (pair ⟨"B"⟩) ∧
      ((pair ⟨"B"⟩).openStores FileTree.system [⟨"A"⟩, ⟨"B"⟩]).perform .empty
        = (.ok (pairStores ⟨"B"⟩), treeOf ["A", "B"] []) ∧
      Run ((pair ⟨"B"⟩).Happens [⟨"A"⟩, ⟨"B"⟩])
        (treeOf ["A", "B"] [], fun chain => (pairStores ⟨"B"⟩).lookup chain)
        (turns ⟨"B"⟩ (some [2]) none) ∧
      Run (Remembers fun _ => False) .empty
        (eventsOf ⟨"A"⟩ (turns ⟨"B"⟩ (some [2]) none)) := by
  have hvalid : (HubConfig.pair ⟨"B"⟩).validate = .ok () := by decide +kernel
  have hmade : ofConfig Suite.standard HubConfig.noFiles (HubConfig.pair ⟨"B"⟩)
      = .ok (pair ⟨"B"⟩) := by decide +kernel
  have hopen : ((pair ⟨"B"⟩).openStores FileTree.system [⟨"A"⟩, ⟨"B"⟩]).perform .empty
      = (.ok (pairStores ⟨"B"⟩), treeOf ["A", "B"] []) := by decide +kernel
  have hrun : Run ((pair ⟨"B"⟩).Happens [⟨"A"⟩, ⟨"B"⟩])
      (treeOf ["A", "B"] [], fun chain => (pairStores ⟨"B"⟩).lookup chain)
      (turns ⟨"B"⟩ (some [2]) none) := by
    apply turns_happen (treeOf ["A", "B"] [("A", ByteMap.empty.insert [1] [2])])
      (treeOf ["A", "B"] [("A", ByteMap.empty.insert [1] [2]), ("B", ByteMap.empty.insert [3] [4])])
      (ByteMap.empty.insert [1] [2]) (by decide)
    · decide +kernel
    · decide +kernel
    · decide +kernel
    · decide +kernel
    · decide +kernel
  obtain ⟨_, happart⟩ := stores_apart hvalid hmade (by decide) (by decide) hopen
  obtain ⟨-, -, -, store, hstore, hremembers⟩ := happart ⟨"A"⟩ (by decide)
  obtain rfl : _ = store := Option.some.inj hstore
  have hadded : ∀ entry ∈ (eventsOf ⟨"A"⟩ (turns ⟨"B"⟩ (some [2]) none)).flatMap Event.added,
      ByteMap.FitsEntry entry := by
    intro entry hentry
    obtain rfl : entry = ([1], [2]) := by
      simpa [eventsOf, turns, Event.added, Change.added] using hentry
    exact ⟨by decide, by decide⟩
  exact ⟨hvalid, hmade, hopen, hrun, hremembers _ hrun hadded (by decide +kernel)⟩

/-- A name that is more than a step: a chain may have another name for the directory
of a second chain. What the second one has written is then lost, and what the first
one has written is there instead. -/
theorem dotted_name_overwrites :
    (HubConfig.pair ⟨"./A"⟩).validate = .ok () ∧
      ofConfig Suite.standard HubConfig.noFiles (HubConfig.pair ⟨"./A"⟩) = .ok (pair ⟨"./A"⟩) ∧
      ((pair ⟨"./A"⟩).openStores FileTree.system [⟨"A"⟩, ⟨"./A"⟩]).perform .empty
        = (.ok (pairStores ⟨"./A"⟩), treeOf ["A"] []) ∧
      (treeOf ["A"] []).locate ((pair ⟨"./A"⟩).storePathOf ⟨"./A"⟩)
        = (treeOf ["A"] []).locate ((pair ⟨"./A"⟩).storePathOf ⟨"A"⟩) ∧
      Run ((pair ⟨"./A"⟩).Happens [⟨"A"⟩, ⟨"./A"⟩])
        (treeOf ["A"] [], fun chain => (pairStores ⟨"./A"⟩).lookup chain)
        (turns ⟨"./A"⟩ none (some [4])) ∧
      ∀ unreadable, ¬ Run (Remembers unreadable) .empty
        (eventsOf ⟨"A"⟩ (turns ⟨"./A"⟩ none (some [4]))) := by
  refine ⟨by decide +kernel, by decide +kernel, by decide +kernel, by decide +kernel, ?_, ?_⟩
  · apply turns_happen (treeOf ["A"] [("A", ByteMap.empty.insert [1] [2])])
      (treeOf ["A"] [("A", ByteMap.empty.insert [3] [4])]) (ByteMap.empty.insert [3] [4])
      (by decide)
    · decide +kernel
    · decide +kernel
    · decide +kernel
    · decide +kernel
    · decide +kernel
  · -- The first chain has written under a key that nothing is found under in the end.
    intro unreadable h
    have hevents : eventsOf ⟨"A"⟩ (turns ⟨"./A"⟩ none (some [4]))
        = [.changed (.put [1] [2]) (.ok ()), .opened (.ok ()), .got [1] (.ok none),
          .got [3] (.ok (some [4]))] := by
      simp [eventsOf, turns]
    rw [hevents] at h
    rcases h with _ | ⟨hput, _ | ⟨hopened, _ | ⟨hgot, -⟩⟩⟩
    cases hput
    cases hopened
    have hanswer := answer_of_remembers hgot
    revert hanswer
    decide +kernel

end HubNode

end RelayHub
