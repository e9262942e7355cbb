import Multicast.OsError
import Multicast.Route

/-!
What can go wrong in driving the kernel's multicast routing.
-/

namespace Multicast

/-- A failure of a channel or of one of its routes. Families and calls go by their names. -/
inductive RoutingError where
  | unavailable (family : String)
  | alreadyOwned (family : String)
  | notSupported (family call : String)
  | capacityExceeded (family slotKind iface : String)
  | kernel (family call : String) (cause : OsError)
  | noMatchingTemplate (group : String) (inbound : SlotIndex)
  /-- The family could not be claimed, for a reason that stops the daemon. -/
  | fatal (family call : String) (cause : OsError)
  | notEnabled (family : String)
  | alreadyEnabled (family : String)
  deriving DecidableEq

namespace RoutingError

def message : RoutingError → String
  | unavailable family => "Kernel does not support " ++ family ++ " multicast routing"
  | alreadyOwned family => family ++ " multicast routing API already in use"
  | notSupported _ call => "Unknown socket option " ++ call
  | capacityExceeded _ slotKind iface => "Out of " ++ slotKind ++ " space for interface " ++ iface
  | kernel _ call cause =>
    call ++ " failed (" ++ cause.errorClass.text ++ "): " ++ cause.message
  | noMatchingTemplate group inbound =>
    "No (*,G) match for group " ++ group ++ " inbound " ++ toString inbound
  | fatal family call cause =>
    "Failed initializing " ++ family ++ " multicast routing API: " ++ call ++ ": " ++ cause.message
  | notEnabled family => family ++ " multicast routing is not enabled"
  | alreadyEnabled family => family ++ " multicast routing is already enabled"

def cause? : RoutingError → Option OsError
  | kernel _ _ cause => some cause
  | fatal _ _ cause => some cause
  | _ => none

def isFatal : RoutingError → Bool
  | fatal .. => true
  | _ => false

def isRetryable : RoutingError → Bool
  | kernel _ _ cause => cause.errorClass = .outOfResources
  | _ => false

def errorClass? : RoutingError → Option ErrorClass
  | unavailable _ => some .protoNotAvailable
  | alreadyOwned _ => some .addrInUse
  | notSupported .. => some .notSupported
  | capacityExceeded .. => some .outOfResources
  | kernel _ _ cause => some cause.errorClass
  | noMatchingTemplate .. => some .noEntry
  | fatal _ _ cause => some cause.errorClass
  | notEnabled _ => none
  | alreadyEnabled _ => none

end RoutingError

end Multicast
