/-
How one hub reaches another.

A connector dials the hub that hosts a chain; the connection answers calls. A
hub itself is what answers a call.
-/
import RelayHub.Action
import RelayHub.Hub.Error
import RelayHub.Message.Request

set_option autoImplicit false

namespace RelayHub

/-- What answers hub calls, in a state of type `σ`. -/
abbrev HubApi (σ : Type) := HubRequest → Action σ HubError HubResponse

/-- Dials the hub that hosts a chain. A connection answers calls as that hub
does. -/
structure Connector (σ : Type) where
  connect : ChainId → Action σ HubError (HubApi σ)

end RelayHub
