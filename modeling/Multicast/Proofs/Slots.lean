import Multicast.Slots

/-!
# Slot tables filled from below

Slots are handed out lowest first. While none but the last is ever given back, the bound slots are
an initial segment, and a list of bindings says all that the table holds.
-/

namespace Multicast

theorem toNat_slot {position : Nat} (hlt : position < slotCount) :
    (UInt16.ofNat position).toNat = position :=
  UInt16.toNat_ofNat_of_lt (Nat.lt_trans hlt (by decide))

theorem eq_slot_iff {slot : SlotIndex} {position : Nat} (hlt : position < slotCount) :
    slot = UInt16.ofNat position ↔ slot.toNat = position := by
  rw [← UInt16.toNat_inj, toNat_slot hlt]

theorem mem_slotIndices {slot : SlotIndex} : slot ∈ slotIndices ↔ slot.toNat < slotCount := by
  simp only [slotIndices, List.mem_map, List.mem_range]
  constructor
  · rintro ⟨position, hlt, rfl⟩
    rwa [toNat_slot hlt]
  · intro hlt
    exact ⟨slot.toNat, hlt, by simp⟩

theorem find?_slotIndices (test : SlotIndex → Bool) :
    slotIndices.find? test =
      ((List.range slotCount).find? fun position => test (UInt16.ofNat position)).map
        UInt16.ofNat := by
  rw [slotIndices, List.find?_map]
  rfl

theorem find?_slotIndices_eq_some_iff {test : SlotIndex → Bool} {slot : SlotIndex} :
    slotIndices.find? test = some slot ↔
      slot.toNat < slotCount ∧ test slot = true ∧ ∀ lower < slot, test lower = false := by
  rw [find?_slotIndices, Option.map_eq_some_iff]
  constructor
  · rintro ⟨position, hfirst, rfl⟩
    obtain ⟨htest, hmem, hlower⟩ := List.find?_range_eq_some.mp hfirst
    have hlt : position < slotCount := List.mem_range.mp hmem
    refine ⟨by rwa [toNat_slot hlt], htest, fun lower hbelow => ?_⟩
    have hposition : lower.toNat < position := by
      rwa [UInt16.lt_iff_toNat_lt, toNat_slot hlt] at hbelow
    simpa using hlower lower.toNat hposition
  · rintro ⟨hlt, htest, hlower⟩
    refine ⟨slot.toNat, List.find?_range_eq_some.mpr ?_, by simp⟩
    refine ⟨by simpa using htest, List.mem_range.mpr hlt, fun earlier hearlier => ?_⟩
    have hbelow : UInt16.ofNat earlier < slot := by
      rwa [UInt16.lt_iff_toNat_lt, toNat_slot (Nat.lt_trans hearlier hlt)]
    simp [hlower _ hbelow]

theorem find?_slotIndices_eq_none_iff {test : SlotIndex → Bool} :
    slotIndices.find? test = none ↔
      ∀ slot : SlotIndex, slot.toNat < slotCount → test slot = false := by
  simp only [List.find?_eq_none, mem_slotIndices, Bool.not_eq_true]

def Interface.binding (iface : Interface) : Binding := ⟨iface.ifindex, iface.name⟩

@[simp]
theorem Interface.ifindex_binding (iface : Interface) : iface.binding.ifindex = iface.ifindex := rfl

namespace SlotTable

variable {table : SlotTable} {held : List Binding} {slot : SlotIndex} {ifindex : UInt32}

@[simp]
theorem get?_empty (slot : SlotIndex) : empty.get? slot = none := by
  by_cases hlt : slot.toNat < slotCount <;> simp [get?, empty, hlt]

theorem get?_put (slot other : SlotIndex) (binding : Option Binding)
    (hlt : slot.toNat < slotCount) :
    (table.put slot binding).get? other = if other = slot then binding else table.get? other := by
  by_cases heq : other = slot
  · simp [get?, put, heq, hlt]
  · have hne : slot.toNat ≠ other.toNat := fun h => heq (UInt16.toNat_inj.mp h).symm
    simp [get?, put, heq, hne]

theorem lt_of_get? {binding : Binding} (hbound : table.get? slot = some binding) :
    slot.toNat < slotCount := by
  refine Nat.lt_of_not_le fun hle => ?_
  simp [get?, Vector.getElem?_eq_none hle] at hbound

theorem free?_eq_some_iff :
    table.free? = some slot ↔ slot.toNat < slotCount ∧ table.get? slot = none ∧
      ∀ lower < slot, table.get? lower ≠ none := by
  rw [free?, find?_slotIndices_eq_some_iff, Option.isNone_iff_eq_none]
  simp only [Option.isNone_eq_false_iff, Option.isSome_iff_ne_none]

theorem free?_eq_none_iff :
    table.free? = none ↔ ∀ slot : SlotIndex, slot.toNat < slotCount → table.get? slot ≠ none := by
  rw [free?, find?_slotIndices_eq_none_iff]
  simp only [Option.isNone_eq_false_iff, Option.isSome_iff_ne_none]

theorem slotOf?_eq_none_iff :
    table.slotOf? ifindex = none ↔
      ∀ slot binding, table.get? slot = some binding → binding.ifindex ≠ ifindex := by
  rw [slotOf?, find?_slotIndices_eq_none_iff]
  simp only [Option.any_eq_false, beq_eq_false_iff_ne]
  exact ⟨fun hnone slot binding hbound => hnone slot (lt_of_get? hbound) binding hbound,
    fun hnone slot _ binding hbound => hnone slot binding hbound⟩

/-- The first slots are bound as the list says, and all others are free. -/
structure Fills (held : List Binding) (table : SlotTable) : Prop where
  length_le : held.length ≤ slotCount
  get?_eq : ∀ slot : SlotIndex, table.get? slot = held[slot.toNat]?

theorem fills_empty : Fills [] empty := ⟨Nat.zero_le _, fun slot => by simp⟩

theorem Fills.free?_eq (hfills : Fills held table) :
    table.free? =
      if held.length < slotCount then some (UInt16.ofNat held.length) else none := by
  split
  case isTrue hlt =>
    have hslot : (UInt16.ofNat held.length).toNat = held.length := toNat_slot hlt
    refine free?_eq_some_iff.mpr ⟨by rwa [hslot], ?_, fun lower hlower => ?_⟩
    · rw [hfills.get?_eq, hslot, List.getElem?_eq_none (Nat.le_refl _)]
    · rw [UInt16.lt_iff_toNat_lt, hslot] at hlower
      simp [hfills.get?_eq, hlower]
  case isFalse hfull =>
    refine free?_eq_none_iff.mpr fun slot hlt => ?_
    simp [hfills.get?_eq, Nat.lt_of_lt_of_le hlt (Nat.not_lt.mp hfull)]

theorem Fills.slotOf?_eq_none (hfills : Fills held table)
    (hnew : ifindex ∉ held.map Binding.ifindex) : table.slotOf? ifindex = none := by
  refine slotOf?_eq_none_iff.mpr fun slot binding hbound heq => hnew ?_
  rw [hfills.get?_eq] at hbound
  exact heq ▸ List.mem_map_of_mem (List.mem_of_getElem? hbound)

theorem Fills.put (hfills : Fills held table) (hlt : held.length < slotCount) (binding : Binding) :
    Fills (held ++ [binding]) (table.put (UInt16.ofNat held.length) (some binding)) where
  length_le := by simpa using Nat.succ_le_of_lt hlt
  get?_eq := by
    intro slot
    rw [get?_put _ _ _ (by rwa [toNat_slot hlt]), hfills.get?_eq]
    simp only [eq_slot_iff hlt]
    grind

theorem Fills.release {binding : Binding} (hfills : Fills (held ++ [binding]) table) :
    Fills held (table.release (UInt16.ofNat held.length)) where
  length_le := Nat.le_of_succ_le (by simpa using hfills.length_le)
  get?_eq := by
    have hlt : held.length < slotCount := Nat.lt_of_succ_le (by simpa using hfills.length_le)
    intro slot
    rw [SlotTable.release, get?_put _ _ _ (by rwa [toNat_slot hlt]), hfills.get?_eq]
    simp only [eq_slot_iff hlt]
    grind

/-- An interface that has no slot gets the one after those that are bound, if there is one. -/
theorem Fills.allocate_eq (hfills : Fills held table) (F : Family) {iface : Interface}
    (hnew : iface.ifindex ∉ held.map Binding.ifindex) :
    (allocate F iface table).answer =
        (if held.length < slotCount then
          .ok (UInt16.ofNat held.length, F.annotate (some (UInt16.ofNat held.length)) iface)
        else .error (.capacityExceeded F.name F.slotKind iface.name)) ∧
      (allocate F iface table).state =
        if held.length < slotCount then
          table.put (UInt16.ofNat held.length) (some iface.binding)
        else table := by
  by_cases hlt : held.length < slotCount <;>
    simp [allocate, Interface.binding, hfills.slotOf?_eq_none hnew, hfills.free?_eq, hlt]

end SlotTable

end Multicast
