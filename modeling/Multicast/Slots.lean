import Multicast.Action
import Multicast.RoutingError

/-!
The slots of a family and the interfaces bound to them. Slots are handed out lowest first, since
forwarding entries name interfaces by slot.
-/

namespace Multicast

structure Binding where
  ifindex : UInt32
  name : String
  deriving DecidableEq

structure SlotTable where
  slots : Vector (Option Binding) slotCount
  deriving DecidableEq

namespace SlotTable

def empty : SlotTable := ⟨Vector.replicate slotCount none⟩

def get? (table : SlotTable) (slot : SlotIndex) : Option Binding := table.slots[slot.toNat]?.join

def put (table : SlotTable) (slot : SlotIndex) (binding : Option Binding) : SlotTable :=
  ⟨table.slots.setIfInBounds slot.toNat binding⟩

def bound (table : SlotTable) : List (SlotIndex × Binding) :=
  slotIndices.filterMap fun slot => (table.get? slot).map fun binding => (slot, binding)

def slotOf? (table : SlotTable) (ifindex : UInt32) : Option SlotIndex :=
  slotIndices.find? fun slot => (table.get? slot).any fun binding => binding.ifindex == ifindex

def free? (table : SlotTable) : Option SlotIndex :=
  slotIndices.find? fun slot => (table.get? slot).isNone

def size (table : SlotTable) : Nat := table.bound.length

def isFull (table : SlotTable) : Bool := table.free?.isNone

def release (table : SlotTable) (slot : SlotIndex) : SlotTable := table.put slot none

/-- Gives a slot back, and answers what was bound to it. -/
def unbind (slot : SlotIndex) : Action SlotTable (Option Binding) := fun table =>
  ⟨table.get? slot, table.release slot, []⟩

@[simp]
theorem unbind_apply (slot : SlotIndex) (table : SlotTable) :
    unbind slot table = ⟨table.get? slot, table.release slot, []⟩ := rfl

def allocated (F : Family) (slot : SlotIndex) (iface : Interface) : Event where
  level := .debug
  target := Target.slots
  message := "Allocated " ++ F.slotKind
  fields :=
    [("family", .quoted F.name), ("slot", .number slot.toNat), ("interface", .text iface.name)]

/-- Binds an interface to the lowest free slot, or keeps the slot it has; answers the slot and the
interface with the slot recorded. A full table is left as it is. -/
def allocate (F : Family) (iface : Interface) :
    Action SlotTable (Except RoutingError (SlotIndex × Interface)) := fun table =>
  match table.slotOf? iface.ifindex with
  | some slot => ⟨.ok (slot, F.annotate (some slot) iface), table, []⟩
  | none =>
    match table.free? with
    | some slot =>
      ⟨.ok (slot, F.annotate (some slot) iface), table.put slot (some ⟨iface.ifindex, iface.name⟩),
        [allocated F slot iface]⟩
    | none => ⟨.error (.capacityExceeded F.name F.slotKind iface.name), table, []⟩

end SlotTable

end Multicast
