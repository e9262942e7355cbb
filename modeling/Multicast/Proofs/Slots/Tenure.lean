import Multicast.Interface.Samples
import Multicast.Proofs.Interface
import Multicast.Proofs.Slots

/-!
# Slots that are given back in any order

Slots may be given back anywhere, so holes open in the table. An interface still has one slot at
most, since it is looked for before a slot is bound to it; it gets the lowest slot that is free; and
it stays there until that slot is given back or all slots are.
-/

namespace Multicast

variable {F : Family}

structure Interface.Marked (F : Family) (slot : SlotIndex) (iface after : Interface) : Prop where
  slotOf : F.slotOf after = some slot
  slotOf_other : ∀ G : Family, G ≠ F → G.slotOf after = G.slotOf iface
  ifindex : after.ifindex = iface.ifindex
  name : after.name = iface.name
  flags : after.flags = iface.flags
  inaddr : after.inaddr = iface.inaddr

theorem Family.marked_annotate (F : Family) (slot : SlotIndex) (iface : Interface) :
    iface.Marked F slot (F.annotate (some slot) iface) where
  slotOf := F.slotOf_annotate (some slot) iface
  slotOf_other := fun _ hne => slotOf_annotate_of_ne hne (some slot) iface
  ifindex := F.ifindex_annotate (some slot) iface
  name := F.name_annotate (some slot) iface
  flags := by cases F <;> rfl
  inaddr := by cases F <;> rfl

namespace SlotTable

variable {table : SlotTable} {slot : SlotIndex} {ifindex : UInt32}

@[simp]
theorem get?_release (table : SlotTable) (slot other : SlotIndex) :
    (table.release slot).get? other = if other = slot then none else table.get? other := by
  by_cases hlt : slot.toNat < slotCount
  · exact get?_put slot other none hlt
  · have hsame : table.release slot = table := by
      rw [release, put, Vector.setIfInBounds_eq_of_size_le (Nat.not_lt.mp hlt)]
    rw [hsame]
    split
    case isTrue heq =>
      rw [heq, get?, Vector.getElem?_eq_none (Nat.not_lt.mp hlt)]
      rfl
    case isFalse => rfl

theorem map_get?_slotIndices (table : SlotTable) :
    slotIndices.map table.get? = table.slots.toList := by
  apply List.ext_getElem
  · simp [slotIndices]
  · intro position hleft hright
    have hlt : position < slotCount := by simpa [slotIndices] using hleft
    simp [slotIndices, get?, toNat_slot hlt, hlt]

theorem size_eq (table : SlotTable) : table.size = table.slots.toList.countP Option.isSome := by
  rw [size, bound, List.length_filterMap_eq_countP, ← map_get?_slotIndices, List.countP_map]
  simp [Function.comp_def]

theorem free?_eq_none_iff_size (table : SlotTable) :
    table.free? = none ↔ table.size = slotCount := by
  have hcount : table.size = slotIndices.countP fun slot => (table.get? slot).isSome := by
    rw [size_eq, ← map_get?_slotIndices, List.countP_map]
    rfl
  have hlength : slotIndices.length = slotCount := rfl
  rw [hcount, ← hlength, List.countP_eq_length, free?_eq_none_iff]
  simp only [mem_slotIndices, Option.isSome_iff_ne_none]

def Distinct (table : SlotTable) : Prop :=
  ∀ slot other binding twin, table.get? slot = some binding → table.get? other = some twin →
    binding.ifindex = twin.ifindex → slot = other

theorem Distinct.slotOf?_eq_some_iff (hdistinct : table.Distinct) :
    table.slotOf? ifindex = some slot ↔
      ∃ binding, table.get? slot = some binding ∧ binding.ifindex = ifindex := by
  constructor
  · intro hslot
    simpa [Option.any_eq_true] using List.find?_some hslot
  · rintro ⟨binding, hbound, rfl⟩
    cases hfind : table.slotOf? binding.ifindex with
    | none => exact absurd rfl (slotOf?_eq_none_iff.mp hfind slot binding hbound)
    | some other =>
        obtain ⟨twin, htwin, hsame⟩ :
            ∃ twin, table.get? other = some twin ∧ twin.ifindex = binding.ifindex := by
          simpa [Option.any_eq_true] using List.find?_some hfind
        rw [hdistinct other slot twin binding htwin hbound hsame]

/-! ### Allocating -/

variable {iface : Interface}

theorem allocate_of_slotOf? (hslot : table.slotOf? iface.ifindex = some slot) :
    allocate F iface table = ⟨.ok (slot, F.annotate (some slot) iface), table, []⟩ := by
  simp only [allocate, hslot]

theorem allocate_of_free? (hnew : table.slotOf? iface.ifindex = none)
    (hfree : table.free? = some slot) :
    allocate F iface table =
      ⟨.ok (slot, F.annotate (some slot) iface), table.put slot (some iface.binding),
        [allocated F slot iface]⟩ := by
  simp only [allocate, hnew, hfree, Interface.binding]

theorem allocate_of_full (hnew : table.slotOf? iface.ifindex = none) (hfull : table.free? = none) :
    allocate F iface table =
      ⟨.error (.capacityExceeded F.name F.slotKind iface.name), table, []⟩ := by
  simp only [allocate, hnew, hfull]

def interfaceAfter (F : Family) (iface : Interface) (table : SlotTable) : Interface :=
  match (allocate F iface table).answer with
  | .ok (_, annotated) => annotated
  | .error _ => iface

/-- What is answered to an interface, the table then, and the interface then. -/
inductive Allocates (F : Family) (iface : Interface) (table : SlotTable) :
    Except RoutingError SlotIndex → SlotTable → Interface → Prop
  | keeps {slot : SlotIndex} {binding : Binding} {marked : Interface}
      (hbound : table.get? slot = some binding) (hsame : binding.ifindex = iface.ifindex)
      (hmarked : iface.Marked F slot marked) :
      Allocates F iface table (.ok slot) table marked
  | binds {slot : SlotIndex} {after : SlotTable} {marked : Interface}
      (hnew : ∀ slot binding, table.get? slot = some binding → binding.ifindex ≠ iface.ifindex)
      (hexists : slot.toNat < slotCount) (hfree : table.get? slot = none)
      (hlowest : ∀ lower < slot, table.get? lower ≠ none)
      (hbinds : after.get? slot = some ⟨iface.ifindex, iface.name⟩)
      (hothers : ∀ other ≠ slot, after.get? other = table.get? other)
      (hmarked : iface.Marked F slot marked) :
      Allocates F iface table (.ok slot) after marked
  | refuses
      (hnew : ∀ slot binding, table.get? slot = some binding → binding.ifindex ≠ iface.ifindex)
      (hfull : ∀ slot : SlotIndex, slot.toNat < slotCount → table.get? slot ≠ none) :
      Allocates F iface table (.error (.capacityExceeded F.name F.slotKind iface.name)) table iface

theorem Distinct.allocates (hdistinct : table.Distinct) (F : Family) (iface : Interface) :
    Allocates F iface table ((allocate F iface table).answer.map Prod.fst)
      (allocate F iface table).state (interfaceAfter F iface table) := by
  unfold interfaceAfter
  cases hslot : table.slotOf? iface.ifindex with
  | some slot =>
      obtain ⟨binding, hbound, hsame⟩ := hdistinct.slotOf?_eq_some_iff.mp hslot
      rw [allocate_of_slotOf? hslot]
      exact .keeps hbound hsame (F.marked_annotate slot iface)
  | none =>
      have hnew := slotOf?_eq_none_iff.mp hslot
      cases hfind : table.free? with
      | some slot =>
          obtain ⟨hexists, hfree, hlowest⟩ := free?_eq_some_iff.mp hfind
          rw [allocate_of_free? hslot hfind]
          refine .binds hnew hexists hfree hlowest ?_ ?_ (F.marked_annotate slot iface)
          · rw [get?_put slot slot _ hexists, if_pos rfl]
            rfl
          · intro other hne
            rw [get?_put slot other _ hexists, if_neg hne]
      | none =>
          rw [allocate_of_full hslot hfind]
          exact .refuses hnew (free?_eq_none_iff.mp hfind)

theorem Allocates.changes {answer : Except RoutingError SlotIndex} {after : SlotTable}
    {marked : Interface} (hallocates : Allocates F iface table answer after marked) :
    after = table ∨ ∃ slot,
      (∀ other binding, table.get? other = some binding → binding.ifindex ≠ iface.ifindex) ∧
        table.get? slot = none ∧ after.get? slot = some iface.binding ∧
        ∀ other ≠ slot, after.get? other = table.get? other := by
  cases hallocates with
  | keeps => exact .inl rfl
  | binds hnew _ hfree _ hbinds hothers => exact .inr ⟨_, hnew, hfree, hbinds, hothers⟩
  | refuses => exact .inl rfl

/-! ### Runs -/

inductive Operation where
  | allocate (iface : Interface)
  | release (slot : SlotIndex)
  | reset

def Operation.perform (F : Family) (table : SlotTable) : Operation → SlotTable
  | allocate iface => (SlotTable.allocate F iface table).state
  | release slot => (unbind slot table).state
  | reset => .empty

def run (F : Family) (operations : List Operation) (table : SlotTable) : SlotTable :=
  operations.foldl (Operation.perform F) table

theorem distinct_empty : Distinct empty := by
  intro slot other binding twin hbound
  simp at hbound

theorem Distinct.allocate (hdistinct : table.Distinct) (F : Family) (iface : Interface) :
    (SlotTable.allocate F iface table).state.Distinct := by
  obtain hsame | ⟨slot, hnew, -, hbinds, hothers⟩ := (hdistinct.allocates F iface).changes
  · rwa [hsame]
  -- the interface had no slot before, so it is not found in another one than the new
  · intro first second binding twin hfirst hsecond hsame
    by_cases hone : first = slot <;> by_cases hother : second = slot
    · rw [hone, hother]
    · rw [hone, hbinds] at hfirst
      rw [hothers second hother] at hsecond
      cases hfirst
      exact absurd hsame.symm (hnew second twin hsecond)
    · rw [hother, hbinds] at hsecond
      rw [hothers first hone] at hfirst
      cases hsecond
      exact absurd hsame (hnew first binding hfirst)
    · rw [hothers first hone] at hfirst
      rw [hothers second hother] at hsecond
      exact hdistinct first second binding twin hfirst hsecond hsame

theorem Distinct.release (hdistinct : table.Distinct) (slot : SlotIndex) :
    (table.release slot).Distinct := by
  intro first second binding twin hfirst hsecond hsame
  rw [get?_release] at hfirst hsecond
  split at hfirst
  · cases hfirst
  · split at hsecond
    · cases hsecond
    · exact hdistinct first second binding twin hfirst hsecond hsame

theorem Distinct.perform (hdistinct : table.Distinct) (F : Family) (operation : Operation) :
    (operation.perform F table).Distinct := by
  cases operation with
  | allocate iface => exact hdistinct.allocate F iface
  | release slot => exact hdistinct.release slot
  | reset => exact distinct_empty

theorem Distinct.run (hdistinct : table.Distinct) (F : Family) (operations : List Operation) :
    (SlotTable.run F operations table).Distinct :=
  List.foldlRecOn operations _ hdistinct fun _ hbefore operation _ => hbefore.perform F operation

/-- What is bound to a slot stays, unless this slot or every slot is given back. -/
theorem Distinct.get?_perform (hdistinct : table.Distinct) (F : Family) {operation : Operation}
    {binding : Binding} (hbound : table.get? slot = some binding)
    (hrelease : operation ≠ .release slot) (hreset : operation ≠ .reset) :
    (operation.perform F table).get? slot = some binding := by
  cases operation with
  | allocate iface =>
      rw [Operation.perform]
      obtain hsame | ⟨other, -, hfree, -, hothers⟩ := (hdistinct.allocates F iface).changes
      · rw [hsame, hbound]
      · have hne : slot ≠ other := by
          rintro rfl
          simp [hfree] at hbound
        rw [hothers slot hne, hbound]
  | release other =>
      have hne : slot ≠ other := fun heq => hrelease (by rw [heq])
      rw [Operation.perform, unbind_apply, get?_release, if_neg hne, hbound]
  | reset => exact absurd rfl hreset

theorem Distinct.get?_run (hdistinct : table.Distinct) (F : Family) {operations : List Operation}
    {binding : Binding} (hbound : table.get? slot = some binding)
    (hkeeps : ∀ operation ∈ operations, operation ≠ .release slot ∧ operation ≠ .reset) :
    (SlotTable.run F operations table).get? slot = some binding := by
  induction operations generalizing table with
  | nil => exact hbound
  | cons operation rest ih =>
      obtain ⟨hrelease, hreset⟩ := hkeeps operation List.mem_cons_self
      exact ih (hdistinct.perform F operation) (hdistinct.get?_perform F hbound hrelease hreset)
        fun later hlater => hkeeps later (List.mem_cons_of_mem _ hlater)

/-- **An interface has the lowest slot that was free, until it is given back:** what happens later
takes a slot from its interface only by giving that slot back, or all. -/
theorem held_until_released (F : Family) (operations : List Operation) :
    let table := run F operations empty
    table.slots.toList.length = 32 ∧ table.Distinct ∧
    (∀ ifindex slot, table.slotOf? ifindex = some slot ↔
      ∃ binding, table.get? slot = some binding ∧ binding.ifindex = ifindex) ∧
    table.size = table.slots.toList.countP Option.isSome ∧
    ((table.isFull = true ↔ table.free? = none) ∧ (table.free? = none ↔ table.size = 32)) ∧
    (∀ iface, Allocates F iface table ((allocate F iface table).answer.map Prod.fst)
      (allocate F iface table).state (interfaceAfter F iface table)) ∧
    ∀ more ifindex slot, table.slotOf? ifindex = some slot →
      (∀ operation ∈ more, operation ≠ .release slot ∧ operation ≠ .reset) →
      (run F more table).slotOf? ifindex = some slot := by
  intro table
  have hdistinct : table.Distinct := distinct_empty.run F operations
  refine ⟨Vector.length_toList, hdistinct, fun _ _ => hdistinct.slotOf?_eq_some_iff,
    table.size_eq, ⟨Option.isNone_iff_eq_none, table.free?_eq_none_iff_size⟩,
    hdistinct.allocates F, ?_⟩
  intro more ifindex slot hslot hkeeps
  obtain ⟨binding, hbound, hsame⟩ := hdistinct.slotOf?_eq_some_iff.mp hslot
  rw [(hdistinct.run F more).slotOf?_eq_some_iff]
  exact ⟨binding, hdistinct.get?_run F hbound hkeeps, hsame⟩

/-- Three interfaces have slots, and the second gives its slot back; a fourth takes it, while the
third stays where it is. -/
theorem held_until_released_hole :
    let table := run .ipv4
      [.allocate (.ethernet 1 "eth0"), .allocate (.ethernet 2 "eth1"),
        .allocate (.ethernet 3 "eth2"), .release 1] empty
    let more := [Operation.allocate (.ethernet 9 "eth8"), .release 0, .release 500]
    (table.slotOf? 3 = some 2 ∧
      ∀ operation ∈ more, operation ≠ .release 2 ∧ operation ≠ .reset) ∧
    (run .ipv4 more table).slotOf? 3 = some 2 ∧ (run .ipv4 more table).slotOf? 9 = some 1 := by
  intro table more
  have hslot : table.slotOf? 3 = some 2 := by decide +kernel
  have hkeeps : ∀ operation ∈ more, operation ≠ .release 2 ∧ operation ≠ .reset := by
    simp [more]
  obtain ⟨-, -, -, -, -, -, hheld⟩ := held_until_released .ipv4
    [.allocate (.ethernet 1 "eth0"), .allocate (.ethernet 2 "eth1"),
      .allocate (.ethernet 3 "eth2"), .release 1]
  exact ⟨⟨hslot, hkeeps⟩, hheld more 3 2 hslot hkeeps, by decide +kernel⟩

end SlotTable

end Multicast
