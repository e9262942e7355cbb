import Mathlib.Data.List.Induction
import Multicast.Family

/-!
# Slots put into where a route forwards to

Putting slots in one after another, all with one TTL, leaves exactly these slots, each with this
TTL.
-/

namespace Multicast

theorem TtlVector.exists_set? {slot : SlotIndex} (hlt : slot.toNat < slotCount) (out : TtlVector)
    (ttl : UInt8) :
    ∃ after, out.set? slot ttl = some after ∧
      ∀ other, after.ttl other = if other = slot then ttl else out.ttl other := by
  refine ⟨⟨out.ttls.set slot.toNat ttl⟩, by rw [set?, dif_pos hlt], fun other => ?_⟩
  by_cases heq : other = slot
  · simp [TtlVector.ttl, heq, hlt]
  · have hne : slot.toNat ≠ other.toNat := fun h => heq (UInt16.toNat_inj.mp h).symm
    simp [TtlVector.ttl, heq, Vector.getElem?_set_ne _ hne]

theorem MifSet.exists_set? {slot : SlotIndex} (hlt : slot.toNat < slotCount) (out : MifSet)
    (ttl : UInt8) :
    ∃ after, out.set? slot ttl = some after ∧
      ∀ other, after.contains other = if other = slot then decide (0 < ttl)
        else out.contains other := by
  refine ⟨_, by rw [set?, if_pos hlt], fun other => ?_⟩
  have hbit : (BitVec.twoPow slotCount slot.toNat).getLsbD other.toNat = decide (other = slot) := by
    rw [BitVec.getLsbD_twoPow, decide_eq_true hlt, Bool.true_and, decide_eq_decide,
      UInt16.toNat_inj, eq_comm]
  by_cases heq : other = slot
  · by_cases hpos : 0 < ttl
    · simp [MifSet.contains, hpos, heq, hlt]
    · simp [MifSet.contains, hpos, heq, hlt]
  · by_cases hpos : 0 < ttl
    · simp [MifSet.contains, hbit, hpos, heq]
    · simpa [MifSet.contains, hbit, hpos, heq] using BitVec.lt_of_getLsbD

namespace Family.Outbound

variable {F : Family}

/-- The slot's threshold, where the family keeps one. -/
def Carries : {F : Family} → F.Outbound → SlotIndex → UInt8 → Prop
  | ipv4, out, slot, ttl => TtlVector.ttl out slot = ttl
  | ipv6, _, _, _ => True

theorem contains_set {slot : SlotIndex} (hlt : slot.toNat < slotCount) (out : F.Outbound)
    (ttl : UInt8) (other : SlotIndex) :
    contains (set out slot ttl) other =
      if other = slot then decide (0 < ttl) else contains out other := by
  cases F with
  | ipv4 =>
      obtain ⟨after, hset, hafter⟩ := TtlVector.exists_set? hlt out ttl
      simp only [contains, TtlVector.contains, set, set?, hset, Option.getD_some, hafter]
      split <;> rfl
  | ipv6 =>
      obtain ⟨after, hset, hafter⟩ := MifSet.exists_set? hlt out ttl
      simp only [contains, set, set?, hset, Option.getD_some, hafter]

theorem carries_set {slot : SlotIndex} (hlt : slot.toNat < slotCount) (out : F.Outbound)
    (ttl : UInt8) {other : SlotIndex} (hother : other = slot ∨ Carries out other ttl) :
    Carries (set out slot ttl) other ttl := by
  cases F with
  | ipv4 =>
      obtain ⟨after, hset, hafter⟩ := TtlVector.exists_set? hlt out ttl
      simp only [Carries, set, set?, hset, Option.getD_some, hafter] at hother ⊢
      split
      · rfl
      · exact hother.resolve_left ‹_›
  | ipv6 => trivial

theorem contains_empty (slot : SlotIndex) : contains (empty : F.Outbound) slot = false := by
  cases F with
  | ipv4 =>
      by_cases hlt : slot.toNat < slotCount <;>
        simp [contains, TtlVector.contains, TtlVector.ttl, empty, TtlVector.empty, hlt]
  | ipv6 => simp [contains, MifSet.contains, empty, MifSet.empty]

def ofSlots (slots : List SlotIndex) (ttl : UInt8) : F.Outbound :=
  slots.foldl (fun out slot => set out slot ttl) empty

theorem ofSlots_append_singleton (slots : List SlotIndex) (slot : SlotIndex) (ttl : UInt8) :
    (ofSlots (slots ++ [slot]) ttl : F.Outbound) = set (ofSlots slots ttl) slot ttl := by
  simp [ofSlots]

variable {slots : List SlotIndex} {ttl : UInt8}

theorem contains_ofSlots (hlt : ∀ slot ∈ slots, slot.toNat < slotCount) (hpos : 0 < ttl)
    (slot : SlotIndex) :
    contains (ofSlots slots ttl : F.Outbound) slot = true ↔ slot ∈ slots := by
  induction slots using List.reverseRecOn with
  | nil => simp [ofSlots, contains_empty]
  | append_singleton slots last ih =>
      have hlast : last.toNat < slotCount := hlt last (by simp)
      have hslots := ih fun slot hmem => hlt slot (List.mem_append_left _ hmem)
      rw [ofSlots_append_singleton, contains_set hlast, List.mem_append, List.mem_singleton]
      split
      · simp [*]
      · simp [*]

theorem carries_ofSlots (hlt : ∀ slot ∈ slots, slot.toNat < slotCount) {slot : SlotIndex}
    (hmem : slot ∈ slots) : Carries (ofSlots slots ttl : F.Outbound) slot ttl := by
  induction slots using List.reverseRecOn with
  | nil => simp at hmem
  | append_singleton slots last ih =>
      rw [ofSlots_append_singleton]
      refine carries_set (hlt last (by simp)) _ _ ?_
      rcases List.mem_append.mp hmem with hold | hnew
      · exact .inr (ih (fun slot h => hlt slot (List.mem_append_left _ h)) hold)
      · exact .inl (List.mem_singleton.mp hnew)

end Family.Outbound

end Multicast
