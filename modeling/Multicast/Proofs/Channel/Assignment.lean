import Multicast.Interface.Samples
import Multicast.Proofs.Channel.Registration

/-!
# Which slots a session hands out

Enabling hands the slots out in table order, from zero on, to the interfaces that the kernel takes:
the slot of an interface is its place among them. Nothing else has a part in it, neither slots
recorded on the table before nor an earlier session.
-/

namespace Multicast

variable {F : Family} {τ : Type}

def Interface.bare (iface : Interface) : Interface := { iface with vif := none, mif := none }

@[simp]
theorem Family.bare_annotate (F : Family) (slot : Option SlotIndex) (iface : Interface) :
    (F.annotate slot iface).bare = iface.bare := by
  cases F <;> rfl

@[simp]
theorem Family.fits_bare (F : Family) (iface : Interface) : F.fits iface.bare = F.fits iface := by
  cases F <;> rfl

theorem map_eq_of_bare {α : Type} {f : Interface → α} {entries others : List Interface}
    (hf : ∀ iface, f iface.bare = f iface)
    (hsame : others.map Interface.bare = entries.map Interface.bare) :
    others.map f = entries.map f := by
  have hbare : f ∘ Interface.bare = f := funext hf
  calc others.map f = (others.map Interface.bare).map f := by rw [List.map_map, hbare]
    _ = (entries.map Interface.bare).map f := by rw [hsame]
    _ = entries.map f := by rw [List.map_map, hbare]

namespace SlotTable

variable {table other : SlotTable}

theorem eq_of_get? (hsame : ∀ slot, table.get? slot = other.get? slot) : table = other := by
  have hslots : table.slots = other.slots := by
    apply Vector.ext
    intro position hposition
    have hslot := hsame (UInt16.ofNat position)
    rw [get?, get?, toNat_slot hposition] at hslot
    simpa [hposition] using hslot
  cases table
  cases other
  exact congrArg SlotTable.mk hslots

theorem Fills.unique {held : List Binding} (hfills : Fills held table)
    (hother : Fills held other) : table = other := by
  apply eq_of_get?
  intro slot
  rw [hfills.get?_eq, hother.get?_eq]

end SlotTable

namespace InterfaceTable

theorem nodup_entries (table : InterfaceTable) : table.entries.Nodup :=
  table.nodup_ifindex.of_map

theorem annotateEach_annotateEach (slots : List (Option SlotIndex)) (entries : List Interface) :
    annotateEach F slots (annotateEach F slots entries) = annotateEach F slots entries := by
  induction entries generalizing slots with
  | nil => cases slots <;> rfl
  | cons iface rest ih =>
      cases slots with
      | nil => rfl
      | cons slot slots =>
          have hhead : F.annotate slot (F.annotate slot iface) = F.annotate slot iface := by
            cases F <;> rfl
          rw [annotateEach, annotateEach, hhead, ih]

theorem annotate_annotate (slots : List (Option SlotIndex)) (table : InterfaceTable) :
    (table.annotate F slots).annotate F slots = table.annotate F slots := by
  simp only [annotate, annotateEach_annotateEach]

theorem map_slotOf_annotateEach {slots : List (Option SlotIndex)} {entries : List Interface}
    (hlength : slots.length = entries.length) :
    (annotateEach F slots entries).map F.slotOf = slots := by
  induction entries generalizing slots with
  | nil => rw [List.length_eq_zero_iff.mp hlength]; rfl
  | cons iface rest ih =>
      cases slots with
      | nil => simp at hlength
      | cons slot slots =>
          have htail : slots.length = rest.length := by simpa using hlength
          rw [annotateEach, List.map_cons, Family.slotOf_annotate, ih htail]

theorem map_bare_annotateEach (slots : List (Option SlotIndex)) (entries : List Interface) :
    (annotateEach F slots entries).map Interface.bare = entries.map Interface.bare := by
  induction entries generalizing slots with
  | nil => cases slots <;> rfl
  | cons iface rest ih =>
      cases slots with
      | nil => rfl
      | cons slot slots => rw [annotateEach, List.map_cons, Family.bare_annotate, ih, List.map_cons]

end InterfaceTable

namespace Channel

open Multicast.Action SimulatedKernel

variable {accepts accepts' : Interface → Bool} {entries entries' : List Interface}

theorem length_assign (next : Nat) : (assign accepts next entries).length = entries.length := by
  induction entries generalizing next with
  | nil => rfl
  | cons iface rest ih =>
      unfold assign
      split
      · rw [List.length_cons, List.length_cons, ih]
      · rw [List.length_cons, List.length_cons, ih]

theorem assign_congr (hsame : entries.map accepts = entries'.map accepts') (next : Nat) :
    assign accepts next entries = assign accepts' next entries' := by
  induction entries generalizing entries' next with
  | nil =>
      have hnil : entries' = [] := by simpa [eq_comm] using hsame
      rw [hnil]
      rfl
  | cons iface rest ih =>
      cases entries' with
      | nil => simp at hsame
      | cons iface' rest' =>
          rw [List.map_cons, List.map_cons, List.cons.injEq] at hsame
          obtain ⟨hhead, hrest⟩ := hsame
          rw [assign, assign, hhead, ih hrest, ih hrest]

theorem notMem_seated {next : Nat} {iface : Interface}
    (hnot : accepts iface = false ∨ next = slotCount) : iface ∉ seated accepts next entries := by
  intro hmem
  rcases hnot with hrefuses | rfl
  · have haccepts := (List.mem_filter.mp (List.mem_of_mem_take hmem)).2
    rw [hrefuses] at haccepts
    cases haccepts
  · simp [seated] at hmem

/-- The slot of an interface is its place among those that get one. -/
theorem annotateEach_assign (hnodup : entries.Nodup) {next : Nat} (hle : next ≤ slotCount) :
    InterfaceTable.annotateEach F (assign accepts next entries) entries =
      entries.map fun iface =>
        F.annotate (((seated accepts next entries).idxOf? iface).map fun place =>
          UInt16.ofNat (next + place)) iface := by
  induction entries generalizing next with
  | nil => rfl
  | cons head rest ih =>
      obtain ⟨hfresh, hrest⟩ := List.nodup_cons.mp hnodup
      by_cases hseat : accepts head = true ∧ next < slotCount
      · obtain ⟨haccepts, hlt⟩ := hseat
        rw [assign, if_pos (by simp [haccepts, hlt]), InterfaceTable.annotateEach, ih hrest hlt,
          seated_cons_of_seated haccepts hlt, List.map_cons]
        congr 1
        · simp [List.idxOf?_cons]
        · apply List.map_congr_left
          intro iface hmem
          have hne : head ≠ iface := fun heq => hfresh (heq ▸ hmem)
          have hplace : (fun place => UInt16.ofNat (next + 1 + place)) =
              fun place => UInt16.ofNat (next + (place + 1)) := by
            funext place
            rw [Nat.add_assoc, Nat.add_comm 1 place]
          rw [List.idxOf?_cons, if_neg (by simpa using hne), Option.map_map, hplace]
          rfl
      · have hnot : accepts head = false ∨ next = slotCount := by grind
        rw [assign, if_neg (by simpa using hseat), InterfaceTable.annotateEach, ih hrest hle,
          seated_cons_of_not_seated hnot, List.map_cons,
          List.idxOf?_eq_none_iff.mpr (notMem_seated hnot), Option.map_none]

variable {channel other : Channel F (SimulatedKernel F) τ}

theorem registers_bare (channel : Channel F (SimulatedKernel F) τ) (iface : Interface) :
    channel.registers iface.bare = channel.registers iface := by
  simp only [registers, takes, Family.fits_bare]
  rfl

theorem map_binding_seated_of_bare {others : List Interface} (next : Nat)
    (hsame : others.map Interface.bare = entries.map Interface.bare) :
    (seated channel.registers next others).map Interface.binding =
      (seated channel.registers next entries).map Interface.binding := by
  have hregisters : channel.registers ∘ Interface.bare = channel.registers :=
    funext channel.registers_bare
  have hfilter : ∀ list : List Interface,
      (list.filter channel.registers).map Interface.binding =
        ((list.map Interface.bare).filter channel.registers).map Interface.binding := by
    intro list
    rw [List.filter_map, hregisters, List.map_map]
    rfl
  rw [seated, seated, List.map_take, List.map_take, hfilter others, hfilter entries, hsame]

/-- The interfaces have the slots from zero on in their order, and no other slot is bound,
registered or recorded for the family. Nothing else about the table is changed. -/
structure Assigns (seated : List Interface) (table annotated : InterfaceTable)
    (channel : Channel F (SimulatedKernel F) τ) : Prop where
  slots : ∀ slot, channel.slots.get? slot = seated[slot.toNat]?.map Interface.binding
  registered : channel.kernel.registered =
    seated.mapIdx fun place iface => (UInt16.ofNat place, iface.ifindex)
  entries : annotated.entries = table.entries.map fun iface =>
    F.annotate ((seated.idxOf? iface).map UInt16.ofNat) iface

theorem Holding.assigns {table : InterfaceTable}
    (hholding : Holding ((seated accepts 0 table.entries).map Interface.binding) channel) :
    Assigns ((table.entries.filter accepts).take slotCount) table
      (table.annotate F (assign accepts 0 table.entries)) channel where
  slots := by
    intro slot
    rw [hholding.slots.get?_eq, List.getElem?_map]
    rfl
  registered := by
    rw [hholding.registered, registrations]
    apply List.ext_getElem?
    intro place
    rw [List.getElem?_mapIdx, List.getElem?_mapIdx, List.getElem?_map, Option.map_map]
    rfl
  entries := by
    have hclosed := @annotateEach_assign F accepts table.entries table.nodup_entries 0
      (Nat.zero_le slotCount)
    simp only [Nat.zero_add] at hclosed
    exact hclosed

variable [Sysctl τ] {table annotated : InterfaceTable}

theorem Lifecycle.enable_eq (hlife : channel.Lifecycle) (hphase : channel.phase ≠ .enabled)
    (hok : (Channel.enable table channel).answer = .ok annotated) :
    annotated = table.annotate F (assign channel.registers 0 table.entries) ∧
      Holding ((seated channel.registers 0 table.entries).map Interface.binding)
        (Channel.enable table channel).state := by
  obtain ⟨henabled, -⟩ | ⟨-, errno, -, hanswer, -⟩ | ⟨-, errno, -, -, hanswer, -⟩ |
    ⟨-, -, -, hanswer, hstate⟩ := enable_cases_simulated table channel
  · exact absurd henabled hphase
  · rw [hanswer] at hok
    cases hok
  · rw [hanswer] at hok
    cases hok
  · have hregistered : channel.claimed.kernel.registered = [] :=
      (hlife.idle_of_ne hphase).registered
    obtain ⟨hannotated, hholding⟩ := setUp_eq table hregistered
    rw [hanswer, Except.ok.injEq] at hok
    rw [hstate, ← hok]
    exact ⟨hannotated, hholding⟩

theorem Lifecycle.enable_agrees (hlife : channel.Lifecycle) (hphase : channel.phase ≠ .enabled)
    (hok : (Channel.enable table channel).answer = .ok annotated)
    (hother : other.Lifecycle) (hdisabled : other.phase ≠ .enabled)
    (hsame : other.registers = channel.registers) {others reannotated : InterfaceTable}
    (hbare : others.entries.map Interface.bare = table.entries.map Interface.bare)
    (hagain : (Channel.enable others other).answer = .ok reannotated) :
    (Channel.enable others other).state.slots = (Channel.enable table channel).state.slots ∧
      (Channel.enable others other).state.kernel.registered =
        (Channel.enable table channel).state.kernel.registered ∧
      reannotated = others.annotate F (assign channel.registers 0 table.entries) := by
  obtain ⟨-, hholding⟩ := hlife.enable_eq hphase hok
  obtain ⟨hannotated, hholding'⟩ := hother.enable_eq hdisabled hagain
  rw [hsame, map_binding_seated_of_bare 0 hbare] at hholding'
  refine ⟨hholding'.slots.unique hholding.slots,
    hholding'.registered.trans hholding.registered.symm, ?_⟩
  rw [hannotated, hsame]
  have hmap : others.entries.map channel.registers = table.entries.map channel.registers :=
    map_eq_of_bare channel.registers_bare hbare
  rw [assign_congr hmap]

theorem Lifecycle.enable_again (hlife : channel.Lifecycle) (hphase : channel.phase ≠ .enabled)
    (hok : (Channel.enable table channel).answer = .ok annotated) :
    let after := (Channel.enable table channel).state
    let again := Channel.enable annotated (Channel.disable after).state
    again.answer = .ok annotated ∧ again.state.slots = after.slots ∧
      again.state.kernel.registered = after.kernel.registered := by
  intro after again
  obtain ⟨hclosed, -, hdisabled⟩ := (hlife.enable table).disable
  have hphase' : (Channel.disable after).state.phase ≠ .enabled := by simp [after, hdisabled]
  have hfaults : (Channel.disable after).state.kernel.faults = channel.kernel.faults := by
    rw [faults_disable, faults_enable]
  have hregisters : (Channel.disable after).state.registers = channel.registers := by
    funext iface
    simp only [registers, takes, hfaults]
  have hfirst : (Channel.enable table channel).answer.isOk = true := isOk_iff.mpr ⟨_, hok⟩
  obtain ⟨-, hopen, hinit⟩ := (isOk_enable table channel).mp hfirst
  have hsecond : again.answer.isOk = true := by
    refine (isOk_enable annotated (Channel.disable after).state).mpr ⟨hphase', ?_, ?_⟩
    · rw [hfaults, hopen]
    · rw [hfaults, hinit]
  obtain ⟨reannotated, hanswer⟩ := isOk_iff.mp hsecond
  obtain ⟨hannotated, -⟩ := hlife.enable_eq hphase hok
  have hbare : annotated.entries.map Interface.bare = table.entries.map Interface.bare := by
    rw [hannotated]
    exact InterfaceTable.map_bare_annotateEach _ _
  obtain ⟨hslots, hregistered, hresult⟩ :=
    hlife.enable_agrees hphase hok hclosed hphase' hregisters hbare hanswer
  refine ⟨?_, hslots, hregistered⟩
  rw [hanswer, hresult, hannotated, InterfaceTable.annotate_annotate]

/-- **Enabling hands slots out by place:** the first of the interfaces that can be registered have
the slots from zero on, and nowhere else is a slot, whatever was recorded or enabled before. -/
theorem enable_assigns (hreachable : channel.Reachable) (hdisabled : channel.phase = .disabled)
    (hok : (enable table channel).answer = .ok annotated) :
    let after := (enable table channel).state
    Assigns ((table.entries.filter channel.registers).take slotCount) table annotated after ∧
      (∀ (other : Channel F (SimulatedKernel F) τ) (others reannotated : InterfaceTable),
        other.Reachable → other.phase = .disabled →
        (∀ name, (other.kernel.faults.addInterface.lookup name).isSome =
          (channel.kernel.faults.addInterface.lookup name).isSome) →
        others.entries.map Interface.bare = table.entries.map Interface.bare →
        (enable others other).answer = .ok reannotated →
        (enable others other).state.slots = after.slots ∧
          (enable others other).state.kernel.registered = after.kernel.registered ∧
          reannotated.entries.map F.slotOf = annotated.entries.map F.slotOf) ∧
      let again := enable annotated (disable after).state
      again.answer = .ok annotated ∧ again.state.slots = after.slots ∧
        again.state.kernel.registered = after.kernel.registered := by
  have hphase : channel.phase ≠ .enabled := by simp [hdisabled]
  have hlife := hreachable.lifecycle
  obtain ⟨hannotated, hholding⟩ := hlife.enable_eq hphase hok
  refine ⟨hannotated ▸ hholding.assigns, ?_, hlife.enable_again hphase hok⟩
  intro other others reannotated hother hdisabled' hnames hbare hagain
  have hregisters : other.registers = channel.registers := by
    funext iface
    have hname := hnames iface.name
    simp only [registers, takes, ← Option.not_isSome, hname]
  obtain ⟨hslots, hregistered, hresult⟩ := hlife.enable_agrees hphase hok hother.lifecycle
    (by simp [hdisabled']) hregisters hbare hagain
  refine ⟨hslots, hregistered, ?_⟩
  have hlength : others.entries.length = table.entries.length := by
    simpa using congrArg List.length hbare
  rw [hresult, hannotated]
  calc (InterfaceTable.annotateEach F (assign channel.registers 0 table.entries)
          others.entries).map F.slotOf
      = assign channel.registers 0 table.entries :=
        InterfaceTable.map_slotOf_annotateEach ((length_assign 0).trans hlength.symm)
    _ = (InterfaceTable.annotateEach F (assign channel.registers 0 table.entries)
          table.entries).map F.slotOf :=
        (InterfaceTable.map_slotOf_annotateEach (length_assign 0)).symm

/-- A loopback interface, one with a slot recorded before, and one too wide for IPv6. -/
def mixed : InterfaceTable :=
  .ofList
    [.loopback 1, { Interface.ethernet 2 "eth0" with mif := some 9 }, .ethernet 3 "eth1",
      .ethernet 4 "eth2", .ethernet 70000 "eth3"]

def beforeMixed : List (Operation .ipv6) :=
  [.enable .basic, .disable, .inject { addInterface := [("eth1", Errno.noEntry)] }]

theorem mixed_assigned :
    let channel := (run beforeMixed (fresh {} ({} : RecordingSysctl) none)).state
    let annotated := mixed.annotate .ipv6 [none, some 0, none, some 1, none]
    channel.phase = .disabled ∧ (enable mixed channel).answer = .ok annotated ∧
      Assigns ((mixed.entries.filter channel.registers).take slotCount) mixed annotated
        (enable mixed channel).state := by
  have hreachable : Reachable (run beforeMixed (fresh {} ({} : RecordingSysctl) none)).state :=
    ⟨{}, {}, none, beforeMixed, rfl⟩
  refine ⟨by decide +kernel, by rfl, ?_⟩
  exact (enable_assigns hreachable (by decide +kernel) (by rfl)).1

end Channel

end Multicast
