import Multicast.OsError
import Multicast.Route

/-!
Wire forms: what the kernel is handed to register an interface and to add or delete a route, and
the numbers of the socket and its options. Addresses are octets in network order.
-/

namespace Multicast

/-- The kernel's set of interface numbers below 256. -/
structure IfSet where
  words : Vector (BitVec 32) 8
  deriving DecidableEq

namespace IfSet

def empty : IfSet := ⟨Vector.replicate 8 0⟩

/-- Puts a number in; one that has no bit changes nothing. -/
def insert (set : IfSet) (n : Nat) : IfSet :=
  ⟨set.words.setIfInBounds (n / 32)
    ((set.words[n / 32]?.getD 0) ||| BitVec.twoPow 32 (n % 32))⟩

def contains (set : IfSet) (n : Nat) : Bool := (set.words[n / 32]?.getD 0).getLsbD (n % 32)

def ofList (numbers : List Nat) : IfSet := numbers.foldl insert empty

end IfSet

structure SocketNumbers where
  domain : UInt32
  protocol : UInt32
  level : UInt32
  init : UInt32 := 200
  done : UInt32 := 201
  addSlot : UInt32 := 202
  addRoute : UInt32 := 204
  delRoute : UInt32 := 205

def Family.socketNumbers : Family → SocketNumbers
  | .ipv4 => { domain := 2, protocol := 2, level := 0 }
  | .ipv6 => { domain := 10, protocol := 58, level := 41 }

structure VifControl where
  slot : SlotIndex
  flags : UInt8 := 0
  threshold : UInt8 := 1
  rateLimit : UInt32 := 0
  localAddr : Vector UInt8 4
  remoteAddr : Vector UInt8 4 := Vector.replicate 4 0
  deriving DecidableEq

structure MifControl where
  slot : SlotIndex
  flags : UInt8 := 0
  threshold : UInt8 := 1
  /-- The index of the interface, in the 16 bits that there are for it. -/
  ifindex : UInt16
  rateLimit : UInt32 := 0
  deriving DecidableEq

structure VifRouteControl where
  origin : Vector UInt8 4
  group : Vector UInt8 4
  parent : SlotIndex := 0
  ttls : Vector UInt8 slotCount := Vector.replicate slotCount 0
  packetCount : UInt32 := 0
  byteCount : UInt32 := 0
  wrongInterface : UInt32 := 0
  expire : UInt32 := 0
  deriving DecidableEq

structure SocketAddress where
  family : UInt16
  port : UInt16 := 0
  flowInfo : UInt32 := 0
  octets : Vector UInt8 16
  scopeId : UInt32 := 0
  deriving DecidableEq

structure MifRouteControl where
  origin : SocketAddress
  group : SocketAddress
  parent : SlotIndex := 0
  interfaces : IfSet := .empty
  deriving DecidableEq

namespace Family

abbrev SlotControl : Family → Type
  | ipv4 => VifControl
  | ipv6 => MifControl

abbrev RouteControl : Family → Type
  | ipv4 => VifRouteControl
  | ipv6 => MifRouteControl

end Family

def IPv6.socketAddress (addr : IPv6) : SocketAddress :=
  { family := Family.ipv6.socketNumbers.domain.toUInt16, octets := addr.octets }

/-- The registration of an interface, unless its index does not fit. -/
def Interface.encode (slot : SlotIndex) (iface : Interface) :
    (F : Family) → Except OsError F.SlotControl
  | .ipv4 => .ok { slot, localAddr := (iface.inaddr.getD IPv4.unspecified).octets }
  | .ipv6 =>
    if iface.ifindex.toNat < 65536 then .ok { slot, ifindex := iface.ifindex.toUInt16 }
    else .error (.errno Errno.invalid)

namespace Route

def encodeAdd : {F : Family} → Route F → F.RouteControl
  | .ipv4, route =>
    { origin := route.origin.octets
      group := route.group.octets
      parent := route.inbound
      ttls := route.outbound.ttls : VifRouteControl }
  | .ipv6, route =>
    { origin := route.origin.socketAddress
      group := route.group.socketAddress
      parent := route.inbound
      interfaces := .ofList ((Family.Outbound.slots route.outbound).map UInt16.toNat) :
        MifRouteControl }

/-- Origin and group alone, which is all that the kernel looks for. -/
def encodeDel : {F : Family} → Route F → F.RouteControl
  | .ipv4, route =>
    { origin := route.origin.octets, group := route.group.octets : VifRouteControl }
  | .ipv6, route =>
    { origin := route.origin.socketAddress, group := route.group.socketAddress : MifRouteControl }

end Route

end Multicast
