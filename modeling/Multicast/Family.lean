import Multicast.Interface
import Multicast.Outbound

/-!
The two address families that the kernel routes multicast for. What differs between them, the wire
forms apart, is here; everything else is written once for either family.
-/

namespace Multicast

inductive Family where
  | ipv4
  | ipv6
  deriving DecidableEq

structure CallNames where
  init : String
  done : String
  addSlot : String
  addRoute : String
  delRoute : String

namespace Family

abbrev Addr : Family → Type
  | ipv4 => IPv4
  | ipv6 => IPv6

abbrev Outbound : Family → Type
  | ipv4 => TtlVector
  | ipv6 => MifSet

instance decEqAddr : (F : Family) → DecidableEq F.Addr
  | ipv4 => inferInstanceAs (DecidableEq IPv4)
  | ipv6 => inferInstanceAs (DecidableEq IPv6)

instance decEqOutbound : (F : Family) → DecidableEq F.Outbound
  | ipv4 => inferInstanceAs (DecidableEq TtlVector)
  | ipv6 => inferInstanceAs (DecidableEq MifSet)

def name : Family → String
  | ipv4 => "IPv4"
  | ipv6 => "IPv6"

def slotKind : Family → String
  | ipv4 => "VIF"
  | ipv6 => "MIF"

def calls : Family → CallNames
  | ipv4 => ⟨"MRT_INIT", "MRT_DONE", "MRT_ADD_VIF", "MRT_ADD_MFC", "MRT_DEL_MFC"⟩
  | ipv6 => ⟨"MRT6_INIT", "MRT6_DONE", "MRT6_ADD_MIF", "MRT6_ADD_MFC", "MRT6_DEL_MFC"⟩

/-- The switch for forwarding, where the kernel has one that INIT may leave off. -/
def forwardingSwitch : Family → Option String
  | ipv4 => none
  | ipv6 => some "/proc/sys/net/ipv6/conf/all/mc_forwarding"

/-- How the kernel spells any sender. -/
def unspecified : (F : Family) → F.Addr
  | ipv4 => IPv4.unspecified
  | ipv6 => IPv6.unspecified

def widen : {F : Family} → F.Addr → Address
  | ipv4, addr => .v4 addr
  | ipv6, addr => .v6 addr

def narrow? : (F : Family) → Address → Option F.Addr
  | ipv4, .v4 addr => some addr
  | ipv6, .v6 addr => some addr
  | _, _ => none

def addrText {F : Family} (addr : F.Addr) : String := (widen addr).text

def slotOf : Family → Interface → Option SlotIndex
  | ipv4, iface => iface.vif
  | ipv6, iface => iface.mif

def annotate : Family → Option SlotIndex → Interface → Interface
  | ipv4, slot, iface => { iface with vif := slot }
  | ipv6, slot, iface => { iface with mif := slot }

@[simp]
theorem slotOf_annotate (F : Family) (slot : Option SlotIndex) (iface : Interface) :
    F.slotOf (F.annotate slot iface) = slot := by
  cases F <;> rfl

@[simp]
theorem ifindex_annotate (F : Family) (slot : Option SlotIndex) (iface : Interface) :
    (F.annotate slot iface).ifindex = iface.ifindex := by
  cases F <;> rfl

namespace Outbound

def empty : {F : Family} → F.Outbound
  | ipv4 => TtlVector.empty
  | ipv6 => MifSet.empty

/-- Forwards by a slot, or no longer if the TTL is zero; none if there is no such slot. -/
def set? : {F : Family} → F.Outbound → SlotIndex → UInt8 → Option F.Outbound
  | ipv4, out, slot, ttl => TtlVector.set? out slot ttl
  | ipv6, out, slot, ttl => MifSet.set? out slot ttl

def set {F : Family} (out : F.Outbound) (slot : SlotIndex) (ttl : UInt8) : F.Outbound :=
  (set? out slot ttl).getD out

def contains : {F : Family} → F.Outbound → SlotIndex → Bool
  | ipv4, out, slot => TtlVector.contains out slot
  | ipv6, out, slot => MifSet.contains out slot

def slots {F : Family} (out : F.Outbound) : List SlotIndex :=
  slotIndices.filter fun slot => contains out slot

def isEmpty {F : Family} (out : F.Outbound) : Bool := (slots out).isEmpty

end Outbound

end Family

end Multicast
