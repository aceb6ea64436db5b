/-
How a configuration becomes a hub.

Every chain of a namespace gets the key of the namespace. The chains of local
namespaces are registered with their contracts and the gateway of the
namespace, those of remote namespaces with the address of their hub. Keys are
loaded first, then chains registered, and last the address is read.
-/
import RelayHub.Config.Load
import RelayHub.Http.Gateway
import RelayHub.Hub.Registry
import RelayHub.Relay.Error
import RelayHub.Trust.Store

set_option autoImplicit false

namespace RelayHub

/-! ## Errors -/

/-- The sentences for an error, the last one for what is behind it. -/
def ConfigError.sentences (e : ConfigError) : List String :=
  e.message ::
    match e with
    | .unreadable _ cause => [cause.message]
    | .badKey _ cause => [cause.message]
    | _ => []

/-- The sentences for an error, the last one for what is behind it. -/
def RelayError.sentences (e : RelayError) : List String :=
  e.message ::
    match e with
    | .dispatch cause => [cause.text]
    | .ledger cause => [cause.message]
    | .store cause => [cause.message]
    | .registry cause => [cause.message]
    | .extract cause => [cause.message]
    | _ => []

/-- Why a hub does not start. -/
inductive StartError where
  | keys (cause : ConfigError)
  | registration (chain : ChainId) (cause : RegistryError)
  | configuration (cause : ConfigError)
  | directory (path : String) (cause : FileError)
  | store (path : String) (cause : BackendError)
  | relay (chain : ChainId) (cause : RelayError)
deriving DecidableEq, Repr

namespace StartError

/-- The sentences for an error: what could not be done, and then what is
behind it. -/
def sentences : StartError → List String
  | keys cause => "failed to load chain keys" :: cause.sentences
  | registration chain cause => ["failed to register chain " ++ chain.name, cause.message]
  | configuration cause => cause.sentences
  | directory path cause => ["failed to create " ++ path, cause.message]
  | store path cause => ["failed to open " ++ path, cause.message]
  | relay chain cause => ("failed to build relay loop for " ++ chain.name) :: cause.sentences

/-- All that is to be said of an error. -/
def message (e : StartError) : String :=
  String.intercalate ": " e.sentences

end StartError

/-! ## Keys and chains -/

namespace HubConfig

/-- Gives the key of a namespace to its chains. -/
def addKey (files : TextFiles) (name : String) (source : KeySource)
    (keyOf : SignatureAlgorithm → Bytes → Except CryptoError ChainKey) (chains : List ChainId)
    (t : TrustStore) : Except ConfigError TrustStore :=
  match (KeyMaterial.decode files source.material).bind (keyOf source.algorithm) with
  | .error e => .error (.badKey name e)
  | .ok key =>
    match t.insert chains key with
    | (.ok (), t) => .ok t
    | (.error e, _) => .error (.badKey name e)

/-- The keys of all chains: secret ones of the local chains, public ones of the
others. -/
def trustStore (suite : Suite) (files : TextFiles) (c : HubConfig) :
    Except ConfigError TrustStore := do
  let t ← c.locals.foldlM
    (fun t ns => addKey files ns.name ns.key (ChainKey.ofSecret suite) (localIds ns) t) .empty
  c.remotes.foldlM
    (fun t ns => addKey files ns.name ns.key (ChainKey.ofPoint suite) ns.channels t) t

/-- The roles of the chains, the local ones first. -/
def roles (c : HubConfig) : List (ChainId × ChainRole) :=
  (c.locals.flatMap fun ns =>
    ns.channels.map fun ch => (ch.id, .hosted ⟨ch.router, ch.proxy⟩)) ++
  c.remotes.flatMap fun ns => ns.channels.map fun id => (id, .remote ⟨ns.name, ns.address⟩)

/-- The gateways of the local chains. -/
def gateways (c : HubConfig) : List (ChainId × Gateway) :=
  c.locals.flatMap fun ns => ns.channels.map fun ch => (ch.id, .ofAddress ns.gateway)

/-- Registers all chains. -/
def registry (c : HubConfig) : Except StartError Registry :=
  c.roles.foldlM
    (fun r (id, role) => (r.register id role).mapError (.registration id)) .empty

end HubConfig

/-! ## The hub -/

/-- A hub with all it knows: the chains, their keys, the gateways of the local
ones, the time in milliseconds that a call may take, the directory of the
stores, and the address to listen on. -/
structure HubNode where
  registry : Registry
  trust : TrustStore
  gateways : List (ChainId × Gateway)
  timeout : Nat
  storePath : String
  listen : SocketAddress
deriving DecidableEq, Repr

/-- The hub of a configuration. -/
def HubNode.ofConfig (suite : Suite) (files : TextFiles) (c : HubConfig) :
    Except StartError HubNode := do
  let trust ← (c.trustStore suite files).mapError .keys
  let registry ← c.registry
  let listen ← c.listenAddress.mapError .configuration
  return {
    registry, trust, listen
    gateways := c.gateways
    timeout := c.timeout
    storePath := c.storePath }

end RelayHub
