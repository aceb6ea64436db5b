/-
The configuration of a hub, and how it is read from a TOML document.

A namespace stands for the chains that share one ledger gateway, or one remote
hub, and one key. What is left out has a default where there is a sensible one;
keys that mean nothing here are passed over. A record may also be written as a
list of its fields in order.
-/
import RelayHub.Toml.Document
import RelayHub.Trust.Key

set_option autoImplicit false

namespace RelayHub

/-! ## The records -/

/-- A key as it is configured: its algorithm, and its text or the name of a
file with that text. -/
structure KeySource where
  algorithm : SignatureAlgorithm
  material : String
deriving DecidableEq, Repr

/-- A chain that this hub is to host. -/
structure LocalChannel where
  id : ChainId
  router : String
  proxy : String
deriving DecidableEq, Repr

/-- Chains that this hub is to host, behind one ledger gateway. -/
structure LocalNamespace where
  name : String
  gateway : String
  key : KeySource
  channels : List LocalChannel
deriving DecidableEq, Repr

/-- Chains of another hub. -/
structure RemoteNamespace where
  name : String
  address : String
  key : KeySource
  channels : List ChainId
deriving DecidableEq, Repr

/-- The configuration of a hub: the directory of its stores, the address it
listens on, the time in seconds that a call may take, and the namespaces. -/
structure HubConfig where
  storePath : String
  listen : String
  timeoutSeconds : Nat
  locals : List LocalNamespace
  remotes : List RemoteNamespace
deriving DecidableEq, Repr

/-! ## Defaults -/

namespace HubConfig

/-- Where the stores are kept. -/
def defaultStorePath : String := "./store"

/-- Where a hub listens. -/
def defaultListen : String := "0.0.0.0:7051"

/-- How many seconds a call may take. -/
def defaultTimeoutSeconds : Nat := 30

end HubConfig

/-! ## Reading -/

/-- An algorithm by its exact name. -/
def SignatureAlgorithm.ofToml (v : Toml) : Option SignatureAlgorithm := do
  names.lookup (← v.name?)

/-- A key whose text stands under a given name. -/
def KeySource.ofToml (materialName : String) (v : Toml) : Option KeySource := do
  let f ← v.fields?
  return {
    algorithm := ← f.required 0 "algorithm" SignatureAlgorithm.ofToml
    material := ← f.optional 1 materialName "" Toml.text? }

/-- The name of a chain. -/
def ChainId.ofToml (v : Toml) : Option ChainId :=
  v.text?.map ChainId.mk

/-- A chain to host. -/
def LocalChannel.ofToml (v : Toml) : Option LocalChannel := do
  let f ← v.fields?
  return {
    id := ← f.required 0 "id" ChainId.ofToml
    router := ← f.required 1 "router_contract" Toml.text?
    proxy := ← f.required 2 "proxy_contract" Toml.text? }

/-- A chain of another hub. -/
def RemoteNamespace.channelOfToml (v : Toml) : Option ChainId := do
  (← v.fields?).required 0 "id" ChainId.ofToml

/-- Chains to host. -/
def LocalNamespace.ofToml (v : Toml) : Option LocalNamespace := do
  let f ← v.fields?
  return {
    name := ← f.required 0 "name" Toml.text?
    gateway := ← f.required 1 "ledger_gateway" Toml.text?
    key := ← f.required 2 "csp" (KeySource.ofToml "private_key")
    channels := ← f.optional 3 "channels" [] (Toml.listOf? LocalChannel.ofToml) }

/-- Chains of another hub. -/
def RemoteNamespace.ofToml (v : Toml) : Option RemoteNamespace := do
  let f ← v.fields?
  return {
    name := ← f.required 0 "name" Toml.text?
    address := ← f.required 1 "address" Toml.text?
    key := ← f.required 2 "csp" (KeySource.ofToml "public_key")
    channels := ← f.optional 3 "channels" [] (Toml.listOf? channelOfToml) }

namespace HubConfig

/-- The address to listen on and the time for a call. -/
def serverOfToml (v : Toml) : Option (String × Nat) := do
  let f ← v.fields?
  return (← f.optional 0 "listen" defaultListen Toml.text?,
    ← f.optional 1 "request_timeout_secs" defaultTimeoutSeconds Toml.natural?)

/-- A whole configuration. -/
def ofToml (v : Toml) : Option HubConfig := do
  let f ← v.fields?
  let storePath ← f.optional 0 "db_path" defaultStorePath Toml.text?
  let (listen, timeoutSeconds) ←
    f.optional 1 "server" (defaultListen, defaultTimeoutSeconds) serverOfToml
  return {
    storePath, listen, timeoutSeconds
    locals := ← f.optional 2 "local" [] (Toml.listOf? LocalNamespace.ofToml)
    remotes := ← f.optional 3 "remote" [] (Toml.listOf? RemoteNamespace.ofToml) }

end HubConfig

end RelayHub
