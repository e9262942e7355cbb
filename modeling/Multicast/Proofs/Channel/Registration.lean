import Mathlib.Data.List.Induction
import Mathlib.Data.List.Nodup
import Multicast.Proofs.Channel.Lifecycle
import Multicast.Proofs.Interface
import Multicast.Proofs.Slots

/-!
# Which interfaces get which slots

Interfaces are taken in table order. One that the kernel takes gets the next slot; one that is
skipped or refused leaves the slots as they were, since the slot it was given first is given back.
So slot table, kernel and annotations follow from the list of those that are taken.
-/

namespace Multicast

variable {F : Family} {τ : Type}

namespace Family

def fits : Family → Interface → Bool
  | ipv4, _ => true
  | ipv6, iface => iface.ifindex.toNat < 65536

@[simp]
theorem fits_annotate (F : Family) (slot : Option SlotIndex) (iface : Interface) :
    F.fits (F.annotate slot iface) = F.fits iface := by
  cases F <;> rfl

theorem isOk_encode (F : Family) (slot : SlotIndex) (iface : Interface) :
    (iface.encode slot F).isOk = F.fits iface := by
  cases F with
  | ipv4 => rfl
  | ipv6 =>
      by_cases hlt : iface.ifindex.toNat < 65536 <;>
        simp [Interface.encode, fits, hlt, Except.toBool]

end Family

namespace SimulatedKernel

def registrations (held : List Binding) : List (SlotIndex × UInt32) :=
  held.mapIdx fun position binding => (UInt16.ofNat position, binding.ifindex)

theorem register_of_forall_lt {slot : SlotIndex} {ifindex : UInt32}
    {entries : List (SlotIndex × UInt32)} (hbelow : ∀ entry ∈ entries, entry.1 < slot) :
    register slot ifindex entries = entries ++ [(slot, ifindex)] := by
  induction entries with
  | nil => rfl
  | cons head rest ih =>
      have hhead : head.1 < slot := hbelow head List.mem_cons_self
      have hnot : ¬ slot < head.1 := UInt16.not_lt.mpr (UInt16.le_of_lt hhead)
      rw [register, if_neg hnot, if_neg (UInt16.ne_of_lt hhead).symm,
        ih fun entry hmem => hbelow entry (List.mem_cons_of_mem _ hmem), List.cons_append]

theorem register_registrations {held : List Binding} (hlt : held.length < slotCount)
    (binding : Binding) :
    register (UInt16.ofNat held.length) binding.ifindex (registrations held) =
      registrations (held ++ [binding]) := by
  have hbelow : ∀ entry ∈ registrations held, entry.1 < UInt16.ofNat held.length := by
    intro entry hmem
    obtain ⟨position, hposition, rfl⟩ := List.mem_mapIdx.mp hmem
    rw [UInt16.lt_iff_toNat_lt, toNat_slot hlt, toNat_slot (Nat.lt_trans hposition hlt)]
    exact hposition
  rw [register_of_forall_lt hbelow, registrations, registrations, List.mapIdx_concat]

theorem lookup_registrations {held : List Binding} (hlength : held.length ≤ slotCount)
    (slot : SlotIndex) :
    (registrations held).lookup slot = held[slot.toNat]?.map Binding.ifindex := by
  induction held using List.reverseRecOn with
  | nil => rfl
  | append_singleton held binding ih =>
      have hlt : held.length < slotCount := Nat.lt_of_succ_le (by simpa using hlength)
      rw [registrations, List.mapIdx_concat, List.lookup_append, ← registrations,
        ih (Nat.le_of_lt hlt)]
      by_cases heq : slot = UInt16.ofNat held.length
      · simp [heq, toNat_slot hlt]
      · have hne : slot.toNat ≠ held.length := mt (eq_slot_iff hlt).mpr heq
        have hlookup : [(UInt16.ofNat held.length, binding.ifindex)].lookup slot = none := by
          simpa using heq
        rw [hlookup, Option.or_none]
        grind

def takes (kernel : SimulatedKernel F) (iface : Interface) : Bool :=
  F.fits iface && (kernel.faults.addInterface.lookup iface.name).isNone

@[simp]
theorem takes_annotate (kernel : SimulatedKernel F) (slot : Option SlotIndex)
    (iface : Interface) : kernel.takes (F.annotate slot iface) = kernel.takes iface := by
  simp [takes]

theorem addInterface_eq (slot : SlotIndex) (iface : Interface) (kernel : SimulatedKernel F) :
    (Kernel.addInterface slot iface kernel).1.isOk = kernel.takes iface ∧
      (Kernel.addInterface slot iface kernel).2.registered =
        if kernel.takes iface then register slot iface.ifindex kernel.registered
        else kernel.registered := by
  have hfits := F.isOk_encode slot iface
  cases hencode : iface.encode slot F with
  | error cause =>
      have hnot : F.fits iface = false := by rw [← hfits, hencode]; rfl
      simp [Kernel.addInterface, addInterface, record, hencode, takes, hnot, Except.toBool]
  | ok control =>
      have hyes : F.fits iface = true := by rw [← hfits, hencode]; rfl
      cases hfault : kernel.faults.addInterface.lookup iface.name <;>
        simp [Kernel.addInterface, addInterface, record, hencode, takes, hyes, hfault,
          Except.toBool]

end SimulatedKernel

namespace Channel

open Multicast.Action SimulatedKernel

variable {held : List Binding} {channel : Channel F (SimulatedKernel F) τ}

def registers (channel : Channel F (SimulatedKernel F) τ) (iface : Interface) : Bool :=
  !iface.isLoopback && channel.kernel.takes iface

/-- The slots hold the bindings in order, and so does the kernel. -/
structure Holding (held : List Binding) (channel : Channel F (SimulatedKernel F) τ) : Prop where
  slots : SlotTable.Fills held channel.slots
  registered : channel.kernel.registered = registrations held

/-- An interface that is not bound yet gets the next slot if it can have one, and else leaves the
slots as they are. -/
theorem Holding.registerInterface (hholding : Holding held channel) {iface : Interface}
    (hnew : iface.ifindex ∉ held.map Binding.ifindex) :
    (channel.registers iface = true ∧ held.length < slotCount ∧
      (registerInterface iface channel).answer = some (UInt16.ofNat held.length) ∧
      Holding (held ++ [iface.binding]) (registerInterface iface channel).state) ∨
    ((channel.registers iface = false ∨ held.length = slotCount) ∧
      (registerInterface iface channel).answer = none ∧
      Holding held (registerInterface iface channel).state) := by
  by_cases hloop : iface.isLoopback = true
  · obtain ⟨hanswer, hstate⟩ := registerInterface_of_loopback channel hloop
    refine .inr ⟨.inl (by simp [registers, hloop]), hanswer, ?_⟩
    rwa [hstate]
  rw [Bool.not_eq_true] at hloop
  obtain ⟨halloc, hput⟩ := hholding.slots.allocate_eq F hnew
  by_cases hlt : held.length < slotCount
  · rw [if_pos hlt] at halloc hput
    obtain ⟨hanswer, hstate⟩ := registerInterface_of_allocated hloop halloc
    obtain ⟨hok, hregistered⟩ := addInterface_eq (UInt16.ofNat held.length)
      (F.annotate (some (UInt16.ofNat held.length)) iface) channel.kernel
    have hfills := hholding.slots.put hlt iface.binding
    rw [hok, takes_annotate] at hanswer hstate
    rw [takes_annotate, Family.ifindex_annotate, hholding.registered] at hregistered
    cases htakes : channel.kernel.takes iface with
    | true =>
        rw [htakes, if_pos rfl] at hanswer hregistered
        refine .inl ⟨by simp [registers, hloop, htakes], hlt, hanswer, ?_, ?_⟩
        · simpa [hstate, htakes, hput] using hfills
        · rw [hstate, hregistered]
          exact register_registrations hlt iface.binding
    | false =>
        rw [htakes, if_neg (by decide)] at hanswer hregistered
        refine .inr ⟨.inl (by simp [registers, htakes]), hanswer, ?_, ?_⟩
        · simpa [hstate, htakes, hput] using hfills.release
        · rw [hstate, hregistered]
  · rw [if_neg hlt] at halloc hput
    obtain ⟨hanswer, hstate⟩ := registerInterface_of_not_allocated hloop halloc
    have hfull : held.length = slotCount :=
      Nat.le_antisymm hholding.slots.length_le (Nat.not_lt.mp hlt)
    refine .inr ⟨.inr hfull, hanswer, ?_⟩
    rw [hstate, hput]
    exact hholding

theorem registers_registerInterface (iface : Interface) :
    (Channel.registerInterface iface channel).state.registers = channel.registers := by
  obtain hslots | ⟨slot, annotated, hkernel⟩ := state_registerInterface iface channel
  · rw [hslots]
    rfl
  · obtain ⟨-, -, hfaults⟩ := frame_addInterface slot annotated channel.kernel
    rw [hkernel]
    funext other
    simp only [registers, takes, Kernel.addInterface, hfaults]

/-- The slots that interfaces get, in table order, when those before them got a number of slots. -/
def assign (accepts : Interface → Bool) : Nat → List Interface → List (Option SlotIndex)
  | _, [] => []
  | next, iface :: rest =>
    if accepts iface && next < slotCount then
      some (UInt16.ofNat next) :: assign accepts (next + 1) rest
    else none :: assign accepts next rest

def seated (accepts : Interface → Bool) (next : Nat) (entries : List Interface) : List Interface :=
  (entries.filter accepts).take (slotCount - next)

theorem seated_cons_of_seated {accepts : Interface → Bool} {next : Nat} {iface : Interface}
    (haccepts : accepts iface = true) (hlt : next < slotCount) (rest : List Interface) :
    seated accepts next (iface :: rest) = iface :: seated accepts (next + 1) rest := by
  have hroom : slotCount - next = (slotCount - (next + 1)) + 1 := by omega
  rw [seated, List.filter_cons_of_pos haccepts, hroom, List.take_succ_cons, seated]

theorem seated_cons_of_not_seated {accepts : Interface → Bool} {next : Nat} {iface : Interface}
    (hnot : accepts iface = false ∨ next = slotCount) (rest : List Interface) :
    seated accepts next (iface :: rest) = seated accepts next rest := by
  rcases hnot with hrefuses | rfl
  · rw [seated, List.filter_cons_of_neg (by simp [hrefuses]), seated]
  · simp [seated]

/-- The closed form of registration: interfaces of distinct indices get the slots that `assign`
says, and those that get one are bound after those that were. -/
theorem Holding.each_registerInterface (hholding : Holding held channel) {entries : List Interface}
    (hnodup : (held.map Binding.ifindex ++ entries.map Interface.ifindex).Nodup) :
    (Action.each Channel.registerInterface entries channel).answer =
        assign channel.registers held.length entries ∧
      Holding (held ++ (seated channel.registers held.length entries).map Interface.binding)
        (Action.each Channel.registerInterface entries channel).state := by
  -- each step hands on a channel that holds more, or the same
  induction entries generalizing held channel with
  | nil => exact ⟨rfl, by simpa [seated] using hholding⟩
  | cons iface rest ih =>
      have hnew : iface.ifindex ∉ held.map Binding.ifindex := by
        intro hmem
        exact (List.nodup_append'.mp hnodup).2.2 hmem (by simp)
      rw [answer_each_cons, state_each_cons, ← registers_registerInterface iface]
      obtain ⟨haccepts, hlt, hanswer, hafter⟩ | ⟨hnot, hanswer, hafter⟩ :=
        hholding.registerInterface hnew
      · rw [← registers_registerInterface iface] at haccepts
        obtain ⟨hanswers, hrest⟩ := ih hafter (by simpa using hnodup)
        rw [hanswer, hanswers, assign, seated_cons_of_seated haccepts hlt]
        refine ⟨by simp [haccepts, hlt], ?_⟩
        simpa using hrest
      · rw [← registers_registerInterface iface] at hnot
        obtain ⟨hanswers, hrest⟩ := ih hafter (hnodup.sublist (by simp))
        rw [hanswer, hanswers, assign, seated_cons_of_not_seated hnot]
        refine ⟨?_, hrest⟩
        rcases hnot with hrefuses | hfull
        · simp [hrefuses]
        · simp [hfull]

theorem getElem?_of_slotOf_annotateEach {accepts : Interface → Bool} {entries : List Interface}
    (hle : held.length ≤ slotCount) {iface : Interface} {slot : SlotIndex}
    (hmem : iface ∈ InterfaceTable.annotateEach F (assign accepts held.length entries) entries)
    (hslot : F.slotOf iface = some slot) :
    slot.toNat < slotCount ∧
      (held ++ (seated accepts held.length entries).map Interface.binding)[slot.toNat]?.map
        Binding.ifindex = some iface.ifindex := by
  induction entries generalizing held with
  | nil => simp [InterfaceTable.annotateEach, assign] at hmem
  | cons head rest ih =>
      by_cases hseat : accepts head = true ∧ held.length < slotCount
      · obtain ⟨haccepts, hlt⟩ := hseat
        rw [assign, if_pos (by simp [haccepts, hlt]), InterfaceTable.annotateEach] at hmem
        rw [seated_cons_of_seated haccepts hlt]
        rcases List.mem_cons.mp hmem with rfl | hrest
        · rw [Family.slotOf_annotate, Option.some_inj] at hslot
          rw [← hslot, toNat_slot hlt]
          exact ⟨hlt, by simp⟩
        · have hlength : (held ++ [head.binding]).length = held.length + 1 := by simp
          rw [← hlength] at hrest ⊢
          have hfound := ih (by rw [hlength]; exact hlt) hrest
          simpa using hfound
      · have hnot : accepts head = false ∨ held.length = slotCount := by grind
        rw [assign, if_neg (by simpa using hseat), InterfaceTable.annotateEach] at hmem
        rw [seated_cons_of_not_seated hnot]
        rcases List.mem_cons.mp hmem with rfl | hrest
        · simp at hslot
        · exact ih hle hrest

/-- Each slot recorded on an interface exists, and is registered for this interface. -/
def Serves (F : Family) (interfaces : InterfaceTable) (registered : List (SlotIndex × UInt32)) :
    Prop :=
  ∀ iface ∈ interfaces.entries, ∀ slot, F.slotOf iface = some slot →
    slot.toNat < slotCount ∧ registered.lookup slot = some iface.ifindex

theorem Serves.annotate {G : Family} {interfaces : InterfaceTable}
    {registered : List (SlotIndex × UInt32)} (hserves : Serves F interfaces registered)
    (hne : F ≠ G) (slots : List (Option SlotIndex)) :
    Serves F (interfaces.annotate G slots) registered := by
  intro iface hmem slot hslot
  obtain ⟨before, hbefore, hifindex, hsame⟩ := InterfaceTable.mem_annotateEach hmem
  rw [hifindex]
  exact hserves before hbefore slot (hsame F hne ▸ hslot)

variable [Sysctl τ]

theorem holding_readied (hregistered : channel.kernel.registered = []) :
    Holding [] channel.readied := by
  rw [readied_eq]
  exact ⟨SlotTable.fills_empty, hregistered⟩

theorem setUp_eq (table : InterfaceTable) (hregistered : channel.kernel.registered = []) :
    (setUp table channel).answer =
        table.annotate F (assign channel.registers 0 table.entries) ∧
      Holding ((seated channel.registers 0 table.entries).map Interface.binding)
        (setUp table channel).state := by
  have hregisters : channel.readied.registers = channel.registers := by
    rw [readied_eq]
    rfl
  obtain ⟨hanswer, hholding⟩ :=
    (holding_readied hregistered).each_registerInterface (by simpa using table.nodup_ifindex)
  rw [hregisters] at hanswer hholding
  exact ⟨by rw [answer_setUp, hanswer]; rfl, { hholding with }⟩

theorem serves_setUp (table : InterfaceTable) (hregistered : channel.kernel.registered = []) :
    Serves F (setUp table channel).answer (setUp table channel).state.kernel.registered := by
  obtain ⟨hanswer, hholding⟩ := setUp_eq table hregistered
  rw [hanswer, hholding.registered]
  intro iface hmem slot hslot
  have hassigned : iface ∈ InterfaceTable.annotateEach F
      (assign channel.registers ([] : List Binding).length table.entries) table.entries := hmem
  rw [lookup_registrations hholding.slots.length_le]
  exact getElem?_of_slotOf_annotateEach (Nat.zero_le _) hassigned hslot

end Channel

end Multicast
