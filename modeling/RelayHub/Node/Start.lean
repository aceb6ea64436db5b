/-
The stores and the relays of a hub.

Every local chain has a store in a file of its own, in a directory named for
the chain below the directory of all stores, and a relay that works with it.
-/
import RelayHub.Node.Setup
import RelayHub.Relay.Process
import RelayHub.Store.File

set_option autoImplicit false

namespace RelayHub

/-- The relay of a chain with its store. -/
structure RelayPost where
  relay : Relay
  store : FileStore

namespace HubNode

variable {φ : Type}

/-- The directory of the store of a chain. -/
def storeDirectory (n : HubNode) (chain : ChainId) : String :=
  Path.join n.storePath chain.name

/-- The file of the store of a chain. -/
def storeFile (n : HubNode) (chain : ChainId) : String :=
  Path.join (n.storeDirectory chain) "blocks.db"

/-- Makes the directory of the store of a chain, if need be, and opens the
store. -/
def openStore (files : FileSystem φ) (n : HubNode) (chain : ChainId) :
    Action φ StartError FileStore := do
  let directory := n.storeDirectory chain
  let file := n.storeFile chain
  Action.mapError (.directory directory)
    (Action.of (files.perform (.makeDirectories (.ofString directory))))
  Action.mapError (.store file) (FileStore.openAt files (.ofString file))

/-- Sets up the relay of a chain. -/
def openPost (files : FileSystem φ) (n : HubNode) (chain : ChainId) :
    Action φ StartError RelayPost := do
  let store ← n.openStore files chain
  let relay ← Action.ofExcept ((Relay.ofRegistry n.registry chain).mapError (.relay chain))
  return ⟨relay, store⟩

/-- Sets up the relays of all local chains, up to the first that cannot be. -/
def openPosts (files : FileSystem φ) (n : HubNode) : Action φ StartError (List RelayPost) :=
  n.registry.localChains.mapM (n.openPost files)

end HubNode

end RelayHub
