/-
What hub becomes of a configuration that is accepted.

Accepted names are distinct over all namespaces together, and that is what the
two later passes look at: keys are given to chains that have none yet, and chains
are registered that are not known yet. So a pass can only end early because a key
cannot be loaded, and both passes end with the same chains.
-/
import RelayHub.Node.Setup
import RelayHub.Proofs.Config.Validate
import RelayHub.Proofs.Hub.Registry
import RelayHub.Proofs.Trust.Binding

set_option autoImplicit false

namespace RelayHub

/-! ## The keys of namespaces -/

/-- The key whose text a configuration has. -/
def KeySource.load (files : TextFiles) (source : KeySource)
    (keyOf : SignatureAlgorithm → Bytes → Except CryptoError ChainKey) :
    Except CryptoError ChainKey :=
  (KeyMaterial.decode files source.material).bind (keyOf source.algorithm)

/-- The key that the chains of a local namespace sign with. -/
def LocalNamespace.secretKey (suite : Suite) (files : TextFiles) (ns : LocalNamespace) :
    Except CryptoError ChainKey :=
  ns.key.load files (ChainKey.ofSecret suite)

/-- The key that the chains of a remote namespace are verified with. -/
def RemoteNamespace.publicKey (suite : Suite) (files : TextFiles) (ns : RemoteNamespace) :
    Except CryptoError ChainKey :=
  ns.key.load files (ChainKey.ofPoint suite)

section Keys

variable {suite : Suite} {files : TextFiles} {key : ChainKey}

theorem KeyMaterial.decode_ne_duplicate (value : String) (chain : ChainId) :
    decode files value ≠ .error (.duplicateChain chain) := by
  intro h
  unfold decode at h
  dsimp only at h
  split at h
  · cases h
  · split at h
    · cases h
    · split at h
      · cases h
      · split at h <;> cases h

/-- A key that cannot be loaded is no key that is there already. -/
theorem KeySource.load_ne_duplicate {source : KeySource}
    {keyOf : SignatureAlgorithm → Bytes → Except CryptoError ChainKey} {chain : ChainId}
    (hkey : ∀ a bytes, keyOf a bytes ≠ .error (.duplicateChain chain)) :
    source.load files keyOf ≠ .error (.duplicateChain chain) := by
  intro h
  rw [load] at h
  cases hdecode : KeyMaterial.decode files source.material with
  | error e =>
    rw [hdecode] at h
    cases h
    exact KeyMaterial.decode_ne_duplicate _ _ hdecode
  | ok bytes =>
    rw [hdecode] at h
    exact hkey _ _ h

theorem ChainKey.ofSecret_ne_duplicate (a : SignatureAlgorithm) (bytes : Bytes)
    (chain : ChainId) : ofSecret suite a bytes ≠ .error (.duplicateChain chain) := by
  rw [ofSecret]
  split <;> simp

theorem ChainKey.ofPoint_ne_duplicate (a : SignatureAlgorithm) (bytes : Bytes)
    (chain : ChainId) : ofPoint suite a bytes ≠ .error (.duplicateChain chain) := by
  rw [ofPoint]
  split <;> simp

theorem KeySource.of_load {source : KeySource}
    {keyOf : SignatureAlgorithm → Bytes → Except CryptoError ChainKey}
    (h : source.load files keyOf = .ok key) : ∃ bytes, keyOf source.algorithm bytes = .ok key := by
  rw [load] at h
  cases hdecode : KeyMaterial.decode files source.material with
  | error e =>
    rw [hdecode] at h
    cases h
  | ok bytes =>
    rw [hdecode] at h
    exact ⟨bytes, h⟩

theorem LocalNamespace.canSign_secretKey {ns : LocalNamespace}
    (h : ns.secretKey suite files = .ok key) : key.canSign = true := by
  obtain ⟨bytes, hkey⟩ := KeySource.of_load h
  rw [ChainKey.ofSecret] at hkey
  split at hkey
  · cases hkey
    rfl
  · cases hkey

theorem RemoteNamespace.canSign_publicKey {ns : RemoteNamespace}
    (h : ns.publicKey suite files = .ok key) : key.canSign = false := by
  obtain ⟨bytes, hkey⟩ := KeySource.of_load h
  rw [ChainKey.ofPoint] at hkey
  split at hkey
  · cases hkey
    rfl
  · cases hkey

end Keys

/-! ## Giving keys to chains -/

namespace HubConfig

section AddKeys

variable {files : TextFiles} {keyOf : SignatureAlgorithm → Bytes → Except CryptoError ChainKey}
  {t t' : TrustStore}

/-- The key of a namespace goes to all its chains, if none of them has a key. -/
theorem addKey_of_new {name : String} {source : KeySource} {chains : List ChainId}
    (hnodup : chains.Nodup) (hnew : ∀ c ∈ chains, t.key? c = none) :
    addKey files name source keyOf chains t =
      match source.load files keyOf with
      | .error e => .error (.badKey name e)
      | .ok key => .ok ⟨t.keys ++ chains.map fun c => (c, key)⟩ := by
  rw [addKey, KeySource.load]
  cases (KeyMaterial.decode files source.material).bind (keyOf source.algorithm) with
  | error e => rfl
  | ok key =>
    dsimp only
    rw [TrustStore.insert_of_new hnodup hnew]

variable {α : Type} (name : α → String) (source : α → KeySource) (chains : α → List ChainId)

/-- What has come to a store from some namespaces: one entry for each of their
chains, with the key of its namespace. -/
structure Keyed (files : TextFiles)
    (keyOf : SignatureAlgorithm → Bytes → Except CryptoError ChainKey)
    (list : List α) (added : List (ChainId × ChainKey)) : Prop where
  covered : added.map Prod.fst = list.flatMap chains
  keys : ∀ a ∈ list, ∃ key, (source a).load files keyOf = .ok key ∧
    ∀ c ∈ chains a, (c, key) ∈ added

/-- The keys of namespaces go to their chains, unless one cannot be loaded. -/
theorem addKeys_of_new (files : TextFiles)
    (keyOf : SignatureAlgorithm → Bytes → Except CryptoError ChainKey) (t : TrustStore)
    {list : List α} (hnodup : (list.flatMap chains).Nodup)
    (hnew : ∀ c ∈ list.flatMap chains, t.key? c = none) :
    (∃ added, Keyed source chains files keyOf list added ∧
      list.foldlM (fun t a => addKey files (name a) (source a) keyOf (chains a) t) t =
        .ok ⟨t.keys ++ added⟩) ∨
    ∃ a ∈ list, ∃ cause, (source a).load files keyOf = .error cause ∧
      list.foldlM (fun t a => addKey files (name a) (source a) keyOf (chains a) t) t =
        .error (.badKey (name a) cause) := by
  induction list generalizing t with
  | nil =>
    left
    exact ⟨[], ⟨rfl, fun a ha => absurd ha List.not_mem_nil⟩, by simp [pure, Except.pure]⟩
  | cons a rest ih =>
    rw [List.flatMap_cons] at hnodup hnew
    obtain ⟨hown, hrest, hapart⟩ := List.nodup_append.1 hnodup
    have hfree : ∀ c ∈ chains a, t.key? c = none := by
      intro c hc
      exact hnew c (List.mem_append_left _ hc)
    rw [List.foldlM_cons, addKey_of_new hown hfree]
    cases hkey : (source a).load files keyOf with
    | error cause =>
      right
      exact ⟨a, List.mem_cons_self, cause, hkey, rfl⟩
    | ok key =>
      -- The chains of the other namespaces have no key after this one's, either.
      have hstill : ∀ c ∈ rest.flatMap chains,
          TrustStore.key? ⟨t.keys ++ (chains a).map fun c => (c, key)⟩ c = none := by
        intro c hc
        have hold : t.keys.lookup c = none := hnew c (List.mem_append_right _ hc)
        rw [TrustStore.key?, List.lookup_append, hold, Option.none_or, List.lookup_eq_none_iff]
        intro e he
        obtain ⟨d, hd, rfl⟩ := List.mem_map.1 he
        rw [bne_iff_ne]
        exact (hapart d hd c hc).symm
      rcases ih _ hrest hstill with ⟨added, hadded, hok⟩ | ⟨b, hb, cause, hcause, herror⟩
      · left
        refine ⟨(chains a).map (fun c => (c, key)) ++ added, ⟨?_, ?_⟩, ?_⟩
        · rw [List.map_append, hadded.covered, List.map_map, List.flatMap_cons]
          simp [Function.comp_def]
        · intro b hb
          rcases List.mem_cons.1 hb with rfl | hb
          · refine ⟨key, hkey, ?_⟩
            intro c hc
            exact List.mem_append_left _ (List.mem_map.2 ⟨c, hc, rfl⟩)
          · obtain ⟨other, hother, hmem⟩ := hadded.keys b hb
            exact ⟨other, hother, fun c hc => List.mem_append_right _ (hmem c hc)⟩
        · rw [← List.append_assoc]
          exact hok
      · right
        exact ⟨b, List.mem_cons_of_mem _ hb, cause, hcause, herror⟩

end AddKeys

variable {suite : Suite} {files : TextFiles} {c : HubConfig}

/-- A key of a configuration that cannot be loaded. -/
def BadKey (suite : Suite) (files : TextFiles) (c : HubConfig) (name : String)
    (cause : CryptoError) : Prop :=
  (∃ ns ∈ c.locals, ns.name = name ∧ ns.secretKey suite files = .error cause) ∨
    ∃ ns ∈ c.remotes, ns.name = name ∧ ns.publicKey suite files = .error cause

/-- The trust store has a key for each chain, unless one cannot be loaded. -/
theorem trustStore_of_coherent (suite : Suite) (files : TextFiles) (h : c.Coherent) :
    (∃ own others,
      Keyed LocalNamespace.key localIds files (ChainKey.ofSecret suite) c.locals own ∧
      Keyed RemoteNamespace.key RemoteNamespace.channels files (ChainKey.ofPoint suite) c.remotes
        others ∧
      c.trustStore suite files = .ok ⟨own ++ others⟩) ∨
    ∃ name cause, c.BadKey suite files name cause ∧
      c.trustStore suite files = .error (.badKey name cause) := by
  obtain ⟨hlocals, hremotes, hapart⟩ := List.nodup_append.1 h.channelsDistinct
  rw [trustStore]
  rcases addKeys_of_new LocalNamespace.name LocalNamespace.key localIds files
    (ChainKey.ofSecret suite) .empty hlocals (fun _ _ => rfl) with
    ⟨own, hown, hok⟩ | ⟨ns, hns, cause, hcause, herror⟩
  · have hnew : ∀ id ∈ c.remotes.flatMap RemoteNamespace.channels,
        TrustStore.key? ⟨own⟩ id = none := by
      intro id hid
      rw [TrustStore.key?, ← Option.not_isSome_iff_eq_none, isSome_lookup_iff, hown.covered]
      intro hmem
      exact hapart id hmem id hid rfl
    rw [hok]
    rcases addKeys_of_new RemoteNamespace.name RemoteNamespace.key RemoteNamespace.channels files
      (ChainKey.ofPoint suite) ⟨own⟩ hremotes hnew with
      ⟨others, hothers, hok⟩ | ⟨ns, hns, cause, hcause, herror⟩
    · left
      exact ⟨own, others, hown, hothers, hok⟩
    · right
      exact ⟨ns.name, cause, .inr ⟨ns, hns, rfl, hcause⟩, herror⟩
  · right
    refine ⟨ns.name, cause, .inl ⟨ns, hns, rfl, hcause⟩, ?_⟩
    rw [herror]
    rfl

theorem not_badKey_duplicate {name : String} {chain : ChainId} :
    ¬ c.BadKey suite files name (.duplicateChain chain) := by
  rintro (⟨ns, -, -, hcause⟩ | ⟨ns, -, -, hcause⟩)
  · exact KeySource.load_ne_duplicate (fun a bytes => ChainKey.ofSecret_ne_duplicate a bytes chain)
      hcause
  · exact KeySource.load_ne_duplicate (fun a bytes => ChainKey.ofPoint_ne_duplicate a bytes chain)
      hcause

/-! ## Registering chains -/

theorem roles_chains : c.roles.map Prod.fst = c.channels := by
  have hlocals (ns : LocalNamespace) :
      (ns.channels.map fun ch => (ch.id, ChainRole.hosted ⟨ch.router, ch.proxy⟩)).map Prod.fst =
        localIds ns := by
    rw [List.map_map]
    rfl
  have hremotes (ns : RemoteNamespace) :
      (ns.channels.map fun id => (id, ChainRole.remote ⟨ns.name, ns.address⟩)).map Prod.fst =
        ns.channels := by
    simp [Function.comp_def]
  rw [roles, List.map_append, List.map_flatMap, List.map_flatMap]
  simp only [hlocals, hremotes]
  rfl

theorem hosted_mem_roles {ns : LocalNamespace} (hns : ns ∈ c.locals) {ch : LocalChannel}
    (hch : ch ∈ ns.channels) : (ch.id, .hosted ⟨ch.router, ch.proxy⟩) ∈ c.roles := by
  apply List.mem_append_left
  rw [List.mem_flatMap]
  exact ⟨ns, hns, List.mem_map.2 ⟨ch, hch, rfl⟩⟩

theorem remote_mem_roles {ns : RemoteNamespace} (hns : ns ∈ c.remotes) {id : ChainId}
    (hid : id ∈ ns.channels) : (id, .remote ⟨ns.name, ns.address⟩) ∈ c.roles := by
  apply List.mem_append_right
  rw [List.mem_flatMap]
  exact ⟨ns, hns, List.mem_map.2 ⟨id, hid, rfl⟩⟩

theorem localRoles_chains :
    (c.roles.filter fun e => e.2.isLocal).map Prod.fst = c.localChannels := by
  have hlocals (ns : LocalNamespace) :
      ((ns.channels.map fun ch => (ch.id, ChainRole.hosted ⟨ch.router, ch.proxy⟩)).filter
        fun e => e.2.isLocal).map Prod.fst = localIds ns := by
    rw [List.filter_eq_self.2, List.map_map]
    · rfl
    · intro e he
      obtain ⟨ch, -, rfl⟩ := List.mem_map.1 he
      rfl
  have hremotes (ns : RemoteNamespace) :
      ((ns.channels.map fun id => (id, ChainRole.remote ⟨ns.name, ns.address⟩)).filter
        fun e => e.2.isLocal) = [] := by
    simp [ChainRole.isLocal]
  rw [roles, List.filter_append, List.map_append, List.filter_flatMap, List.filter_flatMap,
    List.map_flatMap]
  simp only [hlocals, hremotes]
  simp [localChannels]

/-- Chains with names, all of them new, are registered one after the other. -/
theorem register_all {entries : List (ChainId × ChainRole)} {r : Registry}
    (hnamed : ∀ e ∈ entries, e.1.name ≠ "")
    (hnodup : ((r.roles ++ entries).map Prod.fst).Nodup) :
    entries.foldlM (fun r (id, role) => (r.register id role).mapError (StartError.registration id))
      r = .ok ⟨r.roles ++ entries⟩ := by
  induction entries generalizing r with
  | nil => simp [pure, Except.pure]
  | cons e rest ih =>
    obtain ⟨id, role⟩ := e
    have hid : id.isEmpty = false := by
      have hne := hnamed (id, role) List.mem_cons_self
      rw [ChainId.isEmpty, Bool.eq_false_iff, ne_eq, String.isEmpty_iff]
      exact hne
    have hnew : id ∉ r.roles.map Prod.fst := by
      rw [List.map_append, List.map_cons] at hnodup
      intro hmem
      exact (List.nodup_append.1 hnodup).2.2 id hmem id List.mem_cons_self rfl
    have hnext : ((r.roles ++ [(id, role)] ++ rest).map Prod.fst).Nodup := by
      rw [List.append_assoc]
      exact hnodup
    have hstep : (r.register id role).mapError (StartError.registration id) =
        .ok ⟨r.roles ++ [(id, role)]⟩ := by
      rw [Registry.register_of_new hid hnew]
      rfl
    have hrest := ih (fun e he => hnamed e (List.mem_cons_of_mem _ he)) hnext
    rw [List.append_assoc, List.singleton_append] at hrest
    rw [List.foldlM_cons]
    dsimp only
    rw [hstep]
    exact hrest

theorem registry_of_coherent (h : c.Coherent) : c.registry = .ok ⟨c.roles⟩ := by
  rw [registry, register_all]
  · rfl
  · intro e he
    apply h.channelsNamed
    rw [← roles_chains]
    exact List.mem_map_of_mem he
  · change (c.roles.map Prod.fst).Nodup
    rw [roles_chains]
    exact h.channelsDistinct

end HubConfig

/-! ## The hub -/

/-- What a chain with a key signs is signed with that key. -/
theorem TrustStore.sign_of_key? {suite : Suite} {t : TrustStore} {chain : ChainId}
    {key : ChainKey} {digest : Bytes} (h : t.key? chain = some key) (hdigest : digest ≠ []) :
    t.sign suite chain digest = key.sign suite chain digest := by
  rw [sign, if_neg (by simpa using hdigest), h]

namespace HubNode

/-- A hub that knows what a configuration says. It has a registration and a key
for each chain that is configured, and for no other. A chain of a local namespace
has its own contracts, and signs with the key of the namespace; a chain of a remote
one is found at the hub of the namespace, and does not sign. -/
structure Reflects (suite : Suite) (files : TextFiles) (c : HubConfig) (n : HubNode) : Prop where
  registered (id : ChainId) : n.registry.contains id = true ↔ id ∈ c.channels
  keyed (id : ChainId) : (n.trust.key? id).isSome = true ↔ id ∈ c.channels
  localChains : n.registry.localChains.Perm c.localChannels
  ordered : n.registry.localChains.Pairwise fun a b => Bytes.before a.bytes b.bytes = true
  hosted : ∀ ns ∈ c.locals, ∃ key, ns.secretKey suite files = .ok key ∧ ∀ ch ∈ ns.channels,
    n.registry.hosted ch.id = .ok ⟨ch.router, ch.proxy⟩ ∧ n.trust.key? ch.id = some key ∧
      n.trust.canSign ch.id = true ∧
      ∀ digest, digest ≠ [] → n.trust.sign suite ch.id digest = key.sign suite ch.id digest
  remote : ∀ ns ∈ c.remotes, ∃ key, ns.publicKey suite files = .ok key ∧ ∀ id ∈ ns.channels,
    n.registry.remote? id = some ⟨ns.name, ns.address⟩ ∧ n.trust.key? id = some key ∧
      n.trust.canSign id = false ∧
      ∀ digest, digest ≠ [] → n.trust.sign suite id digest = .error (.missingPrivateKey id)

variable {suite : Suite} {files : TextFiles} {c : HubConfig} {n : HubNode}

/-- A hub with one entry for each configured chain, in both of its lists. -/
theorem reflects_of_keyed (h : c.Coherent) {own others : List (ChainId × ChainKey)}
    (hown : HubConfig.Keyed LocalNamespace.key HubConfig.localIds files (ChainKey.ofSecret suite)
      c.locals own)
    (hothers : HubConfig.Keyed RemoteNamespace.key RemoteNamespace.channels files
      (ChainKey.ofPoint suite) c.remotes others)
    (hregistry : n.registry = ⟨c.roles⟩) (htrust : n.trust = ⟨own ++ others⟩) :
    n.Reflects suite files c := by
  have hkeys : n.trust.keys.map Prod.fst = c.channels := by
    rw [htrust, List.map_append, hown.covered, hothers.covered]
    rfl
  have hroles : n.registry.roles.map Prod.fst = c.channels := by
    rw [hregistry]
    exact HubConfig.roles_chains
  have hkeysDistinct : (n.trust.keys.map Prod.fst).Nodup := hkeys ▸ h.channelsDistinct
  have hrolesDistinct : (n.registry.roles.map Prod.fst).Nodup := hroles ▸ h.channelsDistinct
  have hlocals : n.registry.localChains = ChainId.sorted c.localChannels := by
    rw [Registry.localChains, hregistry, HubConfig.localRoles_chains]
  have hkey {id : ChainId} {key : ChainKey} (hmem : (id, key) ∈ own ++ others) :
      n.trust.key? id = some key := by
    apply (lookup_eq_some_iff_mem hkeysDistinct).2
    rw [htrust]
    exact hmem
  refine ⟨?_, ?_, ?_, ?_, ?_, ?_⟩
  · intro id
    rw [Registry.contains_iff, hroles]
  · intro id
    rw [TrustStore.key?, isSome_lookup_iff, hkeys]
  · rw [hlocals]
    exact ChainId.sorted_perm _
  · rw [hlocals]
    exact ChainId.sorted_pairwise (List.nodup_append.1 h.channelsDistinct).1
  · intro ns hns
    obtain ⟨key, hload, hmem⟩ := hown.keys ns hns
    refine ⟨key, hload, ?_⟩
    intro ch hch
    have hfound := hkey (List.mem_append_left _ (hmem ch.id (List.mem_map_of_mem hch)))
    refine ⟨?_, hfound, ?_, fun digest hdigest => TrustStore.sign_of_key? hfound hdigest⟩
    · apply Registry.hosted_of_mem hrolesDistinct
      rw [hregistry]
      exact HubConfig.hosted_mem_roles hns hch
    · rw [TrustStore.canSign, hfound]
      exact LocalNamespace.canSign_secretKey hload
  · intro ns hns
    obtain ⟨key, hload, hmem⟩ := hothers.keys ns hns
    refine ⟨key, hload, ?_⟩
    intro id hid
    have hfound := hkey (List.mem_append_right _ (hmem id hid))
    have hpublic := RemoteNamespace.canSign_publicKey hload
    refine ⟨?_, hfound, ?_, ?_⟩
    · apply Registry.remote?_of_mem hrolesDistinct
      rw [hregistry]
      exact HubConfig.remote_mem_roles hns hid
    · rw [TrustStore.canSign, hfound]
      exact hpublic
    · intro digest hdigest
      rw [TrustStore.sign_of_key? hfound hdigest]
      cases key with
      | signing a secret => cases hpublic
      | verifying a point => rfl

/-- A configuration that keeps to what is asked of it makes a hub that knows what
it says, unless a key cannot be loaded. -/
theorem ofConfig_of_coherent (suite : Suite) (files : TextFiles) (h : c.Coherent) :
    (∃ n, ofConfig suite files c = .ok n ∧ n.Reflects suite files c) ∨
    ∃ name cause, c.BadKey suite files name cause ∧
      ofConfig suite files c = .error (.keys (.badKey name cause)) := by
  obtain ⟨a, haddress⟩ := h.address
  rw [← HubConfig.listenAddress_ok_iff] at haddress
  rw [ofConfig, HubConfig.registry_of_coherent h, haddress]
  rcases HubConfig.trustStore_of_coherent suite files h with
    ⟨own, others, hown, hothers, hok⟩ | ⟨name, cause, hbad, herror⟩
  · left
    rw [hok]
    exact ⟨_, rfl, reflects_of_keyed h hown hothers rfl rfl⟩
  · right
    rw [herror]
    exact ⟨name, cause, hbad, rfl⟩

/-- A configuration is accepted exactly if it keeps to what is asked of it. Then
no chain is there twice for the trust store or the registry, and a hub that comes
of it knows what it says. -/
theorem accepted_makes_coherent (suite : Suite) (files : TextFiles) (c : HubConfig) :
    (c.validate = .ok () ↔ c.Coherent) ∧
    (c.validate = .ok () →
      (∀ name chain, c.trustStore suite files ≠ .error (.badKey name (.duplicateChain chain))) ∧
      (∀ chain cause, ofConfig suite files c ≠ .error (.registration chain cause)) ∧
      ∀ n, ofConfig suite files c = .ok n → n.Reflects suite files c) := by
  refine ⟨HubConfig.validate_ok_iff, ?_⟩
  intro hvalid
  have h := HubConfig.validate_ok_iff.1 hvalid
  refine ⟨?_, ?_, ?_⟩
  · intro name chain herror
    rcases HubConfig.trustStore_of_coherent suite files h with
      ⟨_, _, _, _, hok⟩ | ⟨_, cause, hbad, hkeys⟩
    · rw [hok] at herror
      cases herror
    · rw [hkeys] at herror
      cases herror
      exact HubConfig.not_badKey_duplicate hbad
  · intro chain cause herror
    rcases ofConfig_of_coherent suite files h with
      ⟨n, hok, -⟩ | ⟨_, _, -, hkeys⟩
    · rw [hok] at herror
      cases herror
    · rw [hkeys] at herror
      cases herror
  · intro n hn
    rcases ofConfig_of_coherent suite files h with
      ⟨m, hok, hreflects⟩ | ⟨_, _, -, hkeys⟩
    · rw [hok] at hn
      cases hn
      exact hreflects
    · rw [hkeys] at hn
      cases hn

end HubNode

/-! ### A configuration with three namespaces -/

namespace HubConfig

/-- A configuration with two local namespaces, one of them without chains, and a
remote one that has the name of a chain. One key is in a file. -/
def sample : HubConfig where
  storePath := "store"
  listen := "127.0.0.1:7051"
  timeoutSeconds := 30
  locals := [
    { name := "east", gateway := "http://localhost:80",
      key := ⟨.sm2, " 0x010101010101010101010101010101010101010101010101 "⟩,
      channels := [⟨⟨"B"⟩, "router", "proxy"⟩, ⟨⟨"A/1"⟩, "router2", "proxy2"⟩] },
    { name := "west", gateway := "http://localhost:81", key := ⟨.ecdsa, "west.key"⟩,
      channels := [] }]
  remotes := [
    { name := "B", address := "http://localhost:82",
      key := ⟨.ecdsa, "0279be667ef9dcbbac55a06295ce870b07029bfcdb2dce28d959f2815b16f81798"⟩,
      channels := [⟨"C"⟩, ⟨"a"⟩] }]

/-- The file with the key of the namespace without chains. -/
def sampleFiles : TextFiles := fun p =>
  if p = Path.ofString "west.key" then
    .ok "0b0b0b0b0b0b0b0b0b0b0b0b0b0b0b0b0b0b0b0b0b0b0b0b0b0b0b0b0b0b0b0c\n"
  else .error .notFound

end HubConfig

/-- The configuration makes a hub that knows what it says. The name of the remote
namespace is that of a local chain, which has its own key all the same. -/
theorem HubNode.sample_reflected :
    HubConfig.sample.validate = .ok () ∧
      ∃ n, ofConfig Suite.standard HubConfig.sampleFiles HubConfig.sample = .ok n ∧
        n.Reflects Suite.standard HubConfig.sampleFiles HubConfig.sample ∧
        n.registry.hosted ⟨"B"⟩ = .ok ⟨"router", "proxy"⟩ ∧ n.trust.canSign ⟨"B"⟩ = true ∧
        n.registry.remote? ⟨"a"⟩ = some ⟨"B", "http://localhost:82"⟩ ∧
        n.trust.canSign ⟨"a"⟩ = false := by
  have hvalid : HubConfig.sample.validate = .ok () := by decide +kernel
  have hmade : (ofConfig Suite.standard HubConfig.sampleFiles HubConfig.sample).isOk = true := by
    decide +kernel
  obtain ⟨-, haccepted⟩ :=
    accepted_makes_coherent Suite.standard HubConfig.sampleFiles HubConfig.sample
  cases hn : ofConfig Suite.standard HubConfig.sampleFiles HubConfig.sample with
  | error e =>
    rw [hn] at hmade
    cases hmade
  | ok n =>
    have hreflects := (haccepted hvalid).2.2 n hn
    obtain ⟨_, -, heast⟩ := hreflects.hosted _ List.mem_cons_self
    obtain ⟨hhosted, -, hsigns, -⟩ := heast _ List.mem_cons_self
    obtain ⟨_, -, hfar⟩ := hreflects.remote _ List.mem_cons_self
    obtain ⟨hremote, -, hsilent, -⟩ := hfar ⟨"a"⟩ (by decide)
    exact ⟨hvalid, n, rfl, hreflects, hhosted, hsigns, hremote, hsilent⟩

end RelayHub
