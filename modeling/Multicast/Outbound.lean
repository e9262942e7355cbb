import Multicast.Interface

/-!
Where a route forwards to. IPv4 keeps a TTL threshold for each slot, IPv6 one bit for each slot.
-/

namespace Multicast

/-- A TTL threshold for each slot; packets do not leave by a slot whose threshold is zero. -/
structure TtlVector where
  ttls : Vector UInt8 slotCount
  deriving DecidableEq

namespace TtlVector

def empty : TtlVector := ⟨Vector.replicate slotCount 0⟩

def ttl (out : TtlVector) (slot : SlotIndex) : UInt8 := out.ttls[slot.toNat]?.getD 0

def set? (out : TtlVector) (slot : SlotIndex) (ttl : UInt8) : Option TtlVector :=
  if h : slot.toNat < slotCount then some ⟨out.ttls.set slot.toNat ttl⟩ else none

def contains (out : TtlVector) (slot : SlotIndex) : Bool := 0 < out.ttl slot

end TtlVector

structure MifSet where
  bits : BitVec slotCount
  deriving DecidableEq

namespace MifSet

def empty : MifSet := ⟨0⟩

/-- Puts a slot in, or takes it out if the TTL is zero; the slot has to exist. -/
def set? (out : MifSet) (slot : SlotIndex) (ttl : UInt8) : Option MifSet :=
  let bit := BitVec.twoPow slotCount slot.toNat
  if slot.toNat < slotCount then
    some ⟨if 0 < ttl then out.bits ||| bit else out.bits &&& ~~~bit⟩
  else none

def contains (out : MifSet) (slot : SlotIndex) : Bool := out.bits.getLsbD slot.toNat

end MifSet

end Multicast
