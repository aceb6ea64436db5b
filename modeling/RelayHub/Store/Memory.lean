/-
The backend that keeps its entries in memory. It never fails.
-/
import RelayHub.Store.Backend
import RelayHub.Store.ByteMap

set_option autoImplicit false

namespace RelayHub

/-- A map, as a backend. -/
def ByteMap.backend : Backend ByteMap where
  get key := Action.look fun m => .ok (m.get? key)
  has key := Action.look fun m => .ok (m.contains key)
  put key value := Action.of fun m => (.ok (), m.insert key value)
  putAll entries := Action.of fun m => (.ok (), m.insertAll entries)

end RelayHub
