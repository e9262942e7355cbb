import Multicast.Action
import Multicast.Kernel.Socket
import Multicast.RoutingError

/-!
Installing routes in the forwarding cache and taking them out, each with its events.
-/

namespace Multicast.Route

variable {F : Family} {σ : Type} [RouteSocket F σ]

def routeFields (route : Route F) : List (String × FieldValue) :=
  [("family", .quoted F.name), ("source", .text (Family.addrText route.origin)),
    ("group", .text (Family.addrText route.group))]

def inboundField (route : Route F) : String × FieldValue :=
  ("inbound", .number route.inbound.toNat)

def adding (route : Route F) : Event where
  level := .info
  target := Target.installer
  message := "Adding " ++ route.text
  fields := routeFields route ++ [inboundField route]

def addingFailed (route : Route F) (err : RoutingError) : Event where
  level := .warn
  target := Target.installer
  message := "Failed adding " ++ route.text ++ ": " ++ err.message
  fields := routeFields route ++ [inboundField route]

def removing (route : Route F) : Event where
  level := .info
  target := Target.installer
  message := "Removing " ++ route.text
  fields := routeFields route ++ [inboundField route]

def removingFailed (route : Route F) (err : RoutingError) : Event where
  level := .warn
  target := Target.installer
  message := "Failed removing " ++ route.text ++ ": " ++ err.message
  fields := routeFields route

def install (route : Route F) : Action σ (Except RoutingError Unit) := do
  Action.log (adding route)
  match ← Action.call (RouteSocket.addRoute route) with
  | .ok () => pure (.ok ())
  | .error cause =>
    let err := RoutingError.kernel F.name F.calls.addRoute cause
    Action.log (addingFailed route err)
    pure (.error err)

/-- Takes the entry with the route's origin and group out of the forwarding cache. -/
def uninstall (route : Route F) : Action σ (Except RoutingError Unit) := do
  Action.log (removing route)
  match ← Action.call (RouteSocket.delRoute route) with
  | .ok () => pure (.ok ())
  | .error cause =>
    let err := RoutingError.kernel F.name F.calls.delRoute cause
    Action.log (removingFailed route err)
    pure (.error err)

end Multicast.Route
