/-
What a configuration has to keep to.

The names of all namespaces, local or remote, are distinct and not empty; so
are the names of all chains of all namespaces. Every namespace has some text
for its key, and the hub listens on a proper address. The first breach is
reported: of the names in order, then of the keys, then of the address.
-/
import RelayHub.Config.Address
import RelayHub.Config.HubConfig

set_option autoImplicit false

namespace RelayHub

/-! ## Errors -/

/-- Why a configuration cannot be used. -/
inductive ConfigError where
  | unreadable (path : String) (cause : FileError)
  | malformed
  | duplicateNamespace (name : String)
  | emptyNamespace
  | duplicateChannel (id : ChainId)
  | emptyChannel (name : String)
  | missingPrivateKey (name : String)
  | missingPublicKey (name : String)
  | badKey (name : String) (cause : CryptoError)
  | badListen (text : String)
deriving DecidableEq, Repr

/-- The sentence for an error. -/
def ConfigError.message : ConfigError → String
  | .unreadable path cause => "Failed to read " ++ path ++ ": " ++ cause.message
  | .malformed => "Invalid TOML"
  | .duplicateNamespace name => "Duplicate namespace name: " ++ name
  | .emptyNamespace => "Namespace name must not be empty"
  | .duplicateChannel id => "Duplicate channel id: " ++ id.name
  | .emptyChannel name => "Namespace " ++ name ++ " has an empty channel id"
  | .missingPrivateKey name => "Local namespace " ++ name ++ " has no private key"
  | .missingPublicKey name => "Remote namespace " ++ name ++ " has no public key"
  | .badKey name cause => "Invalid key for namespace " ++ name ++ ": " ++ cause.message
  | .badListen text => "Invalid listen address " ++ text

namespace HubConfig

/-! ## Names -/

/-- The names of the chains of a local namespace. -/
def localIds (ns : LocalNamespace) : List ChainId :=
  ns.channels.map LocalChannel.id

/-- Every namespace with the names of its chains, the local ones first. -/
def namespaces (c : HubConfig) : List (String × List ChainId) :=
  c.locals.map (fun ns => (ns.name, localIds ns)) ++ c.remotes.map fun ns => (ns.name, ns.channels)

/-- Checks the names of the chains of one namespace, after others; answers all
of them together. -/
def checkChannels (name : String) (seen : List ChainId) :
    List ChainId → Except ConfigError (List ChainId)
  | [] => .ok seen
  | id :: ids =>
    if id.isEmpty then .error (.emptyChannel name)
    else if id ∈ seen then .error (.duplicateChannel id)
    else checkChannels name (id :: seen) ids

/-- Checks the names of namespaces and of their chains, after others. -/
def checkNames (names : List String) (ids : List ChainId) :
    List (String × List ChainId) → Except ConfigError Unit
  | [] => .ok ()
  | (name, channels) :: rest =>
    if name.isEmpty then .error .emptyNamespace
    else if name ∈ names then .error (.duplicateNamespace name)
    else do
      let ids ← checkChannels name ids channels
      checkNames (name :: names) ids rest

/-! ## Keys and the address -/

/-- Whether there is some text for a key. -/
def hasKey (source : KeySource) : Bool :=
  !(Blank.trim source.material).isEmpty

/-- Checks that every namespace has some text for its key. -/
def checkKeys (c : HubConfig) : Except ConfigError Unit :=
  match c.locals.find? fun ns => !hasKey ns.key with
  | some ns => .error (.missingPrivateKey ns.name)
  | none =>
    match c.remotes.find? fun ns => !hasKey ns.key with
    | some ns => .error (.missingPublicKey ns.name)
    | none => .ok ()

/-- The address to listen on. -/
def listenAddress (c : HubConfig) : Except ConfigError SocketAddress :=
  match SocketAddress.ofString? c.listen with
  | some a => .ok a
  | none => .error (.badListen c.listen)

/-! ## All of it -/

/-- Checks a configuration. -/
def validate (c : HubConfig) : Except ConfigError Unit := do
  checkNames [] [] c.namespaces
  c.checkKeys
  let _ ← c.listenAddress
  return ()

/-- The time that a call may take, in milliseconds: at least a second. -/
def timeout (c : HubConfig) : Nat :=
  (max 1 c.timeoutSeconds) * 1000

end HubConfig

end RelayHub
