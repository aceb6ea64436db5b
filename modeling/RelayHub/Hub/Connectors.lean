/-
The ways to reach the hub of a chain: within this hub if the chain is local,
over HTTP if it is remote, or either, as the registry says.
-/
import RelayHub.Hub.Executor

set_option autoImplicit false

namespace RelayHub

open Json

variable {σ : Type}

namespace Connector

/-- Reaches the chains that this hub hosts. -/
def loopback (x : HubExecutor σ) : Connector σ where
  connect target :=
    Action.ofExcept <|
      if x.registry.isLocal target then .ok x.execute else .error (HubExecutor.notHosted target)

/-- Reaches local chains one way and remote chains another. -/
def byRole (registry : Registry) (inner outer : Connector σ) : Connector σ where
  connect target :=
    match registry.role? target with
    | some role => if role.isLocal then inner.connect target else outer.connect target
    | none =>
      Action.ofExcept (.error ⟨.notFound, "chain " ++ target.name ++ " is not registered"⟩)

end Connector

end RelayHub
