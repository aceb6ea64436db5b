/-
The registry: which chains the hub knows, and where they are.

A chain is local, if this hub hosts it, or remote, if another hub does. Every
chain is registered once.
-/
import RelayHub.Message.Contract
import RelayHub.Text.Quoted

set_option autoImplicit false

namespace RelayHub

/-! ## Roles -/

/-- A chain that this hub hosts, with the names of its contracts. -/
structure LocalChain where
  router : String
  proxy : String
deriving DecidableEq, Repr

/-- A chain that another hub hosts: the name of that hub, and where it can be
reached. -/
structure RemoteChain where
  hub : String
  endpoint : String
deriving DecidableEq, Repr

/-- Where a chain is. -/
inductive ChainRole where
  | hosted (chain : LocalChain)
  | remote (chain : RemoteChain)
deriving DecidableEq, Repr

namespace ChainRole

/-- Whether this hub hosts the chain. -/
def isLocal : ChainRole → Bool
  | hosted _ => true
  | remote _ => false

/-- The description of a role. -/
def describe : ChainRole → String
  | hosted c =>
    "Local \x7b router_contract: " ++ Quoted.text c.router ++ ", proxy_contract: " ++
      Quoted.text c.proxy ++ ", .. \x7d"
  | remote c =>
    "RemoteChain \x7b hub: " ++ Quoted.text c.hub ++ ", endpoint: " ++ Quoted.text c.endpoint ++
      " \x7d"

end ChainRole

/-! ## Errors -/

/-- Why a chain cannot be registered or used. -/
inductive RegistryError where
  | duplicateChain (chain : ChainId)
  | emptyName
  | unknownChain (chain : ChainId)
  | notLocal (chain : ChainId)
deriving DecidableEq, Repr

/-- The sentence for a failure. -/
def RegistryError.message : RegistryError → String
  | .duplicateChain chain => "Chain " ++ chain.name ++ " is registered twice"
  | .emptyName => "Chain id must not be empty"
  | .unknownChain chain => "Chain " ++ chain.name ++ " is not registered"
  | .notLocal chain => "Chain " ++ chain.name ++ " is not hosted by this hub"

/-! ## The registry -/

/-- The known chains, in the order they were registered. -/
structure Registry where
  roles : List (ChainId × ChainRole)
deriving DecidableEq, Repr

/-- Chain names in the order of a dictionary. -/
def ChainId.sorted (chains : List ChainId) : List ChainId :=
  chains.mergeSort fun a b => !(Bytes.before b.bytes a.bytes)

namespace Registry

/-- No chains. -/
def empty : Registry := ⟨[]⟩

/-- The role of a chain. -/
def role? (r : Registry) (chain : ChainId) : Option ChainRole :=
  r.roles.lookup chain

/-- Registers a chain. -/
def register (r : Registry) (chain : ChainId) (role : ChainRole) : Except RegistryError Registry :=
  if chain.isEmpty then .error .emptyName
  else if (r.role? chain).isSome then .error (.duplicateChain chain)
  else .ok ⟨r.roles ++ [(chain, role)]⟩

/-- Registers several chains, up to the first that cannot be. -/
def ofList (chains : List (ChainId × ChainRole)) : Except RegistryError Registry :=
  chains.foldlM (fun r c => r.register c.1 c.2) empty

/-- Whether a chain is known. -/
def contains (r : Registry) (chain : ChainId) : Bool :=
  (r.role? chain).isSome

/-- Whether this hub hosts a chain. -/
def isLocal (r : Registry) (chain : ChainId) : Bool :=
  (r.role? chain).any ChainRole.isLocal

/-- A chain that this hub hosts, or why it is not one. -/
def hosted (r : Registry) (chain : ChainId) : Except RegistryError LocalChain :=
  match r.role? chain with
  | some (.hosted c) => .ok c
  | some (.remote _) => .error (.notLocal chain)
  | none => .error (.unknownChain chain)

/-- A chain that another hub hosts. -/
def remote? (r : Registry) (chain : ChainId) : Option RemoteChain :=
  match r.role? chain with
  | some (.remote c) => some c
  | _ => none

/-- All chains, in order of their names. -/
def chains (r : Registry) : List ChainId :=
  ChainId.sorted (r.roles.map Prod.fst)

/-- The chains that this hub hosts, in order of their names. -/
def localChains (r : Registry) : List ChainId :=
  ChainId.sorted ((r.roles.filter fun e => e.2.isLocal).map Prod.fst)

/-- How many chains are known. -/
def size (r : Registry) : Nat :=
  r.roles.length

end Registry

end RelayHub
