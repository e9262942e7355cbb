import Multicast.Proofs.Bits
import Multicast.Proofs.Outbound
import Multicast.Proofs.Slots

/-!
# Any sequence of settings

Slots may be set in any order, set again, taken out, or not exist. What is left depends for each
slot on its last setting alone, and both families agree on it: the TTL vector has the TTL that was
set last, and the bit set has a bit exactly where this TTL is not zero.
-/

namespace Multicast

structure Setting where
  slot : SlotIndex
  ttl : UInt8
  deriving DecidableEq

def lastTtl? (slot : SlotIndex) (settings : List Setting) : Option UInt8 :=
  (settings.reverse.find? fun setting => setting.slot == slot).map Setting.ttl

@[simp]
theorem lastTtl?_nil (slot : SlotIndex) : lastTtl? slot [] = none := rfl

theorem lastTtl?_append_singleton (slot : SlotIndex) (settings : List Setting) (last : Setting) :
    lastTtl? slot (settings ++ [last]) =
      if slot = last.slot then some last.ttl else lastTtl? slot settings := by
  rw [lastTtl?, List.reverse_concat, List.find?_cons, lastTtl?]
  by_cases heq : last.slot = slot
  · simp [heq]
  · simp [beq_eq_false_iff_ne.mpr heq, Ne.symm heq]

theorem lastTtl?_map (slot : SlotIndex) (slots : List SlotIndex) (ttl : UInt8) :
    lastTtl? slot (slots.map fun slot => ⟨slot, ttl⟩) =
      if slot ∈ slots then some ttl else none := by
  induction slots using List.reverseRecOn with
  | nil => rfl
  | append_singleton slots last ih =>
      rw [List.map_append, List.map_singleton, lastTtl?_append_singleton, ih]
      grind

namespace Family.Outbound

variable {F : Family}

theorem isSome_set? (out : F.Outbound) (slot : SlotIndex) (ttl : UInt8) :
    (set? out slot ttl).isSome = decide (slot.toNat < slotCount) := by
  by_cases hlt : slot.toNat < slotCount <;>
    cases F <;> simp [set?, TtlVector.set?, MifSet.set?, hlt]

theorem set_of_le {slot : SlotIndex} (hle : slotCount ≤ slot.toNat) (out : F.Outbound)
    (ttl : UInt8) : set out slot ttl = out := by
  have hnone : set? out slot ttl = none := by
    rw [← Option.isNone_iff_eq_none, ← Option.not_isSome, isSome_set?]
    simpa using hle
  rw [set, hnone, Option.getD_none]

theorem contains_of_le {slot : SlotIndex} (hle : slotCount ≤ slot.toNat) (out : F.Outbound) :
    contains out slot = false := by
  cases F with
  | ipv4 => simp [contains, TtlVector.contains, TtlVector.ttl, Nat.not_lt.mpr hle]
  | ipv6 => exact BitVec.getLsbD_of_ge _ _ hle

theorem lt_of_contains {out : F.Outbound} {slot : SlotIndex}
    (hcontains : contains out slot = true) : slot.toNat < slotCount := by
  by_contra hge
  rw [contains_of_le (Nat.not_lt.mp hge)] at hcontains
  cases hcontains

def setEach (out : F.Outbound) (settings : List Setting) : F.Outbound :=
  settings.foldl (fun out setting => set out setting.slot setting.ttl) out

def answersOf (out : F.Outbound) : List Setting → List Bool
  | [] => []
  | setting :: rest =>
    (set? out setting.slot setting.ttl).isSome ::
      answersOf (set out setting.slot setting.ttl) rest

theorem answersOf_eq (out : F.Outbound) (settings : List Setting) :
    answersOf out settings =
      settings.map fun setting => decide (setting.slot.toNat < slotCount) := by
  induction settings generalizing out with
  | nil => rfl
  | cons setting rest ih => rw [answersOf, isSome_set?, ih, List.map_cons]

theorem setEach_append_singleton (out : F.Outbound) (settings : List Setting) (last : Setting) :
    setEach out (settings ++ [last]) = set (setEach out settings) last.slot last.ttl := by
  simp [setEach]

theorem contains_setEach_empty (settings : List Setting) (slot : SlotIndex) :
    contains (setEach (empty : F.Outbound) settings) slot = true ↔
      slot.toNat < slotCount ∧ ∃ ttl, lastTtl? slot settings = some ttl ∧ 0 < ttl := by
  induction settings using List.reverseRecOn with
  | nil => simp [setEach, contains_empty]
  | append_singleton settings last ih =>
      rw [setEach_append_singleton, lastTtl?_append_singleton]
      by_cases hlt : last.slot.toNat < slotCount
      · rw [contains_set hlt]
        split
        · simp [*]
        · exact ih
      -- what is not there is neither set nor asked for
      · rw [set_of_le (Nat.not_lt.mp hlt), ih]
        refine and_congr_right fun hslot => ?_
        have hne : slot ≠ last.slot := fun heq => hlt (heq ▸ hslot)
        rw [if_neg hne]

theorem ttl_setEach_empty (settings : List Setting) (slot : SlotIndex) :
    TtlVector.ttl (setEach (empty : Outbound .ipv4) settings) slot =
      if slot.toNat < slotCount then (lastTtl? slot settings).getD 0 else 0 := by
  by_cases hslot : slot.toNat < slotCount
  · rw [if_pos hslot]
    induction settings using List.reverseRecOn with
    | nil => simp [setEach, empty, TtlVector.empty, TtlVector.ttl, hslot]
    | append_singleton settings last ih =>
        rw [setEach_append_singleton, lastTtl?_append_singleton]
        by_cases hlt : last.slot.toNat < slotCount
        · obtain ⟨after, hset, hafter⟩ := TtlVector.exists_set? hlt
            (setEach (empty : Outbound .ipv4) settings) last.ttl
          rw [set, set?, hset, Option.getD_some, hafter, ih]
          split <;> rfl
        · have hne : slot ≠ last.slot := fun heq => hlt (heq ▸ hslot)
          rw [set_of_le (Nat.not_lt.mp hlt), ih, if_neg hne]
  · rw [if_neg hslot, TtlVector.ttl, Vector.getElem?_eq_none (Nat.not_lt.mp hslot),
      Option.getD_none]

theorem contains_setEach_eq (settings : List Setting) (slot : SlotIndex) :
    contains (setEach (empty : Outbound .ipv4) settings) slot =
      contains (setEach (empty : Outbound .ipv6) settings) slot := by
  rw [Bool.eq_iff_iff, contains_setEach_empty, contains_setEach_empty]

theorem contains_ofSlots_iff {slots : List SlotIndex} {ttl : UInt8} {slot : SlotIndex} :
    contains (ofSlots slots ttl : F.Outbound) slot = true ↔
      slot.toNat < slotCount ∧ slot ∈ slots ∧ 0 < ttl := by
  have heach : (ofSlots slots ttl : F.Outbound) =
      setEach empty (slots.map fun slot => ⟨slot, ttl⟩) := by
    rw [ofSlots, setEach, List.foldl_map]
  rw [heach, contains_setEach_empty, lastTtl?_map]
  by_cases hmem : slot ∈ slots <;> simp [hmem]

theorem pairwise_slotIndices : slotIndices.Pairwise (· < ·) := by decide

theorem pairwise_slots (out : F.Outbound) : (slots out).Pairwise (· < ·) :=
  pairwise_slotIndices.filter _

theorem mem_slots_iff {out : F.Outbound} {slot : SlotIndex} :
    slot ∈ slots out ↔ contains out slot = true := by
  rw [slots, List.mem_filter, mem_slotIndices, and_iff_right_iff_imp]
  exact lt_of_contains

end Family.Outbound

namespace MifSet

/-! ### Shifts

A bit is found by shifting, and a slot that does not exist has to be turned away first. -/

/-- `set?` by shifts, with what is left if the slot does not exist; none if a shift goes wrong. -/
def setShifting (out : MifSet) (setting : Setting) : Option (Bool × MifSet) :=
  if slotCount ≤ setting.slot.toNat then some (false, out)
  else do
    let bit ← shiftedOne? slotCount setting.slot.toNat
    if 0 < setting.ttl then return (true, ⟨out.bits ||| bit⟩)
    else return (true, ⟨out.bits &&& ~~~bit⟩)

def containsShifting (out : MifSet) (slot : SlotIndex) : Option Bool :=
  if slot.toNat < slotCount then do
    let bit ← shiftedOne? slotCount slot.toNat
    return out.bits &&& bit != 0
  else some false

def setEachShifting (out : MifSet) : List Setting → Option (List Bool × MifSet)
  | [] => some ([], out)
  | setting :: rest => do
    let (answer, after) ← out.setShifting setting
    let (answers, last) ← after.setEachShifting rest
    return (answer :: answers, last)

theorem setShifting_eq (out : MifSet) (setting : Setting) :
    out.setShifting setting =
      some ((out.set? setting.slot setting.ttl).isSome,
        (out.set? setting.slot setting.ttl).getD out) := by
  by_cases hlt : setting.slot.toNat < slotCount
  · rw [setShifting, if_neg (Nat.not_le.mpr hlt), shiftedOne?_of_lt hlt, set?, if_pos hlt]
    by_cases hpos : 0 < setting.ttl <;> simp [hpos]
  · rw [setShifting, if_pos (Nat.not_lt.mp hlt), set?, if_neg hlt]
    rfl

theorem containsShifting_eq (out : MifSet) (slot : SlotIndex) :
    out.containsShifting slot = some (out.contains slot) := by
  by_cases hlt : slot.toNat < slotCount
  · rw [containsShifting, if_pos hlt, shiftedOne?_of_lt hlt, contains, ← and_twoPow_bne_zero hlt]
    rfl
  · rw [containsShifting, if_neg hlt, contains, BitVec.getLsbD_of_ge _ _ (Nat.not_lt.mp hlt)]

theorem setEachShifting_eq (out : MifSet) (settings : List Setting) :
    out.setEachShifting settings =
      some (Family.Outbound.answersOf (F := .ipv6) out settings,
        Family.Outbound.setEach (F := .ipv6) out settings) := by
  induction settings generalizing out with
  | nil => rfl
  | cons setting rest ih =>
      rw [setEachShifting, setShifting_eq]
      simp only [Option.bind_eq_bind, Option.bind_some, ih]
      rfl

end MifSet

namespace Family.Outbound

/-- **The TTL vector and the bit set are one set:** after the same settings both have given the same
answers, no shift goes wrong, and both hold the slots whose last TTL is not zero. -/
theorem setEach_agree (settings : List Setting) :
    let ttls : TtlVector := setEach (empty : Outbound .ipv4) settings
    let mifs : MifSet := setEach (empty : Outbound .ipv6) settings
    let answers := settings.map fun setting => decide (setting.slot.toNat < 32)
    (answersOf (empty : Outbound .ipv4) settings = answers ∧
      answersOf (empty : Outbound .ipv6) settings = answers) ∧
    (MifSet.empty.setEachShifting settings = some (answers, mifs) ∧
      ∀ slot, mifs.containsShifting slot = some (mifs.contains slot)) ∧
    (∀ slot, ttls.contains slot = mifs.contains slot) ∧
    slots (F := .ipv4) ttls = slots (F := .ipv6) mifs ∧
    (slots (F := .ipv4) ttls).Pairwise (· < ·) ∧
    (∀ slot, slot ∈ slots (F := .ipv4) ttls ↔
      slot.toNat < 32 ∧ ∃ ttl, lastTtl? slot settings = some ttl ∧ 0 < ttl) ∧
    ∀ slot, ttls.ttl slot =
      if slot.toNat < 32 then (lastTtl? slot settings).getD 0 else 0 := by
  intro ttls mifs answers
  have hcontains : ∀ slot, ttls.contains slot = mifs.contains slot := contains_setEach_eq settings
  refine ⟨⟨answersOf_eq _ settings, answersOf_eq _ settings⟩, ⟨?_, mifs.containsShifting_eq⟩,
    hcontains, ?_, pairwise_slots _, ?_, ttl_setEach_empty settings⟩
  · rw [MifSet.setEachShifting_eq]
    exact congrArg (fun answers => some (answers, mifs)) (answersOf_eq _ settings)
  · exact List.filter_congr fun slot _ => hcontains slot
  · intro slot
    rw [mem_slots_iff]
    exact contains_setEach_empty settings slot

end Family.Outbound

end Multicast
