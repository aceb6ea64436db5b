/-
A hub: requests of local chains go out, requests of other chains are carried
out here.
-/
import RelayHub.Hub.Executor

set_option autoImplicit false

namespace RelayHub

/-- A hub with its two sides. -/
structure HubService (σ : Type) where
  executor : HubExecutor σ
  client : HubClient σ

/-- Answers a hub call. -/
def HubService.invoke {σ : Type} (h : HubService σ) : HubApi σ := fun q =>
  if q.origin = q.destination then throw (HubExecutor.sameChain q.origin)
  -- A request of a chain hosted here is to be passed on, any other is for this hub.
  else if h.executor.registry.isLocal q.origin then h.client.invoke q
  else h.executor.execute q

end RelayHub
