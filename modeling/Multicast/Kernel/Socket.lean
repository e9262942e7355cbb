import Multicast.OsError
import Multicast.Route

/-!
What a kernel does for multicast routing. A kernel is any type of states with these operations; each
gives its answer and the state after it.
-/

namespace Multicast

class RouteSocket (F : outParam Family) (σ : Type) where
  addRoute : Route F → σ → Except OsError Unit × σ
  /-- Deletes the entry with the route's origin and group. -/
  delRoute : Route F → σ → Except OsError Unit × σ

class Kernel (F : outParam Family) (κ : Type) extends RouteSocket F κ where
  openSocket : κ → Except OsError Unit × κ
  claim : κ → Except OsError Unit × κ
  release : κ → Except OsError Unit × κ
  addInterface : SlotIndex → Interface → κ → Except OsError Unit × κ
  /-- Closes the socket, which forgets what was added through it. -/
  close : κ → κ

end Multicast
