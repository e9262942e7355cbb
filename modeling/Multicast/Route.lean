import Multicast.Family

/-!
Multicast routes and the flows that have none yet.
-/

namespace Multicast

/-- A forwarding entry. Without a sender, or with the unspecified one, it is a template for any
sender, which the kernel cannot install. -/
structure Route (F : Family) where
  sender : Option F.Addr
  group : F.Addr
  inbound : SlotIndex
  outbound : F.Outbound
  deriving DecidableEq

namespace Route

variable {F : Family}

def wildcard (group : F.Addr) (inbound : SlotIndex) (outbound : F.Outbound) : Route F :=
  ⟨none, group, inbound, outbound⟩

def concrete (sender group : F.Addr) (inbound : SlotIndex) (outbound : F.Outbound) : Route F :=
  ⟨some sender, group, inbound, outbound⟩

/-- The sender as the kernel spells it. -/
def origin (route : Route F) : F.Addr := route.sender.getD F.unspecified

def isWildcard (route : Route F) : Bool := route.origin = F.unspecified

def isFor (group : F.Addr) (inbound : SlotIndex) (route : Route F) : Bool :=
  route.group = group && route.inbound = inbound

def text (route : Route F) : String :=
  let sender := if route.isWildcard then "*" else Family.addrText route.origin
  let outbound :=
    match Family.Outbound.slots route.outbound with
    | [] => ""
    | slots => " outbound [" ++ ",".intercalate (slots.map toString) ++ "]"
  "(" ++ sender ++ ", " ++ Family.addrText route.group ++ ") inbound " ++ F.slotKind ++ " " ++
    toString route.inbound ++ outbound

end Route

/-- Traffic that arrived and that no forwarding entry is for. -/
structure Flow (F : Family) where
  sender : F.Addr
  group : F.Addr
  inbound : SlotIndex
  deriving DecidableEq

namespace Flow

variable {F : Family}

def toRoute (flow : Flow F) (outbound : F.Outbound) : Route F :=
  .concrete flow.sender flow.group flow.inbound outbound

def text (flow : Flow F) : String :=
  "(" ++ Family.addrText flow.sender ++ ", " ++ Family.addrText flow.group ++ ") inbound " ++
    F.slotKind ++ " " ++ toString flow.inbound

end Flow

end Multicast
