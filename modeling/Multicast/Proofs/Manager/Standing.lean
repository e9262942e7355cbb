import Multicast.Proofs.Manager.Independence
import Multicast.Proofs.Manager.Reload

/-!
# Where a start leads

A start leads to the same place on any switches, and a reload leads to where the start of a new
manager leads. What may differ there is how the kernels fail by now, and what they were told.
-/

namespace Multicast

open Multicast.Action

variable {F : Family} {τ τ' α : Type}

theorem InterfaceTable.eq_of_seenBy {table others : InterfaceTable}
    (hseen : ∀ F, table.seenBy F = others.seenBy F) : table = others := by
  -- either family leaves out only the slots of the other
  have hinjective : Function.Injective fun iface : Interface =>
      (iface.only .ipv4, iface.only .ipv6) := by
    rintro ⟨⟩ ⟨⟩ heq
    simp only [Interface.only, Interface.bare, Family.annotate, Family.slotOf, Prod.mk.injEq,
      Interface.mk.injEq] at heq ⊢
    tauto
  have hpairs : table.entries.map (fun iface => (iface.only .ipv4, iface.only .ipv6)) =
      others.entries.map fun iface => (iface.only .ipv4, iface.only .ipv6) := by
    have hzip := congrArg₂ List.zip (hseen .ipv4) (hseen .ipv6)
    rwa [seenBy, seenBy, seenBy, seenBy, List.zip_map', List.zip_map'] at hzip
  obtain ⟨entries, ascending⟩ := table
  obtain ⟨entries', ascending'⟩ := others
  obtain rfl : entries = entries' := List.map_injective_iff.mpr hinjective hpairs
  rfl

namespace Channel

/-- The channels are at the same place, with the same in their kernels. -/
structure SameStanding (one : Channel F (SimulatedKernel F) τ)
    (other : Channel F (SimulatedKernel F) τ') : Prop where
  phase : one.phase = other.phase
  holdsSocket : one.holdsSocket = other.holdsSocket
  slots : one.slots = other.slots
  registry : one.registry = other.registry
  cache : one.kernel.cache = other.kernel.cache
  registered : one.kernel.registered = other.kernel.registered

theorem Alike.sameStanding {one : Channel F (SimulatedKernel F) τ}
    {other : Channel F (SimulatedKernel F) τ'} (halike : Alike one other) :
    SameStanding one other where
  phase := halike.phase
  holdsSocket := halike.holdsSocket
  slots := halike.slots
  registry := halike.registry
  cache := congrArg SimulatedKernel.cache halike.kernel
  registered := congrArg SimulatedKernel.registered halike.kernel

theorem SameStanding.refl (channel : Channel F (SimulatedKernel F) τ) :
    SameStanding channel channel :=
  ⟨rfl, rfl, rfl, rfl, rfl, rfl⟩

theorem SameStanding.after {one : Channel F (SimulatedKernel F) τ}
    {other : Channel F (SimulatedKernel F) τ'} (hstanding : SameStanding one other)
    (earlier : List (KernelCall F)) : SameStanding (one.after earlier) other :=
  { hstanding with }

end Channel

namespace Manager

/-- The managers differ in nothing but switches. -/
structure Twins (one : Simulated τ) (other : Simulated τ') : Prop where
  config : one.config = other.config
  interfaces : one.interfaces = other.interfaces
  ipv4 : Channel.Alike one.ipv4 other.ipv4
  ipv6 : Channel.Alike one.ipv6 other.ipv6

structure SameStanding (one : Simulated τ) (other : Simulated τ') : Prop where
  config : one.config = other.config
  interfaces : one.interfaces = other.interfaces
  ipv4 : one.ipv4.SameStanding other.ipv4
  ipv6 : one.ipv6.SameStanding other.ipv6

theorem Twins.sameStanding {one : Simulated τ} {other : Simulated τ'}
    (htwins : Twins one other) : SameStanding one other where
  config := htwins.config
  interfaces := htwins.interfaces
  ipv4 := htwins.ipv4.sameStanding
  ipv6 := htwins.ipv6.sameStanding

theorem SameStanding.after {one : Simulated τ} {other : Simulated τ'}
    (hstanding : SameStanding one other) (ipv4 : List (KernelCall .ipv4))
    (ipv6 : List (KernelCall .ipv6)) : SameStanding (one.after ipv4 ipv6) other :=
  { hstanding with ipv4 := hstanding.ipv4.after ipv4, ipv6 := hstanding.ipv6.after ipv6 }

section Relates

theorem relates_onIPv4 {one : Action (Channel .ipv4 (SimulatedKernel .ipv4) τ) α}
    {other : Action (Channel .ipv4 (SimulatedKernel .ipv4) τ') α}
    (hrelates : Relates Channel.Alike Eq one other) :
    Relates Twins Eq (onIPv4 one : Action (Simulated τ) α)
      (onIPv4 other : Action (Simulated τ') α) := by
  intro manager manager' htwins
  obtain ⟨hanswer, hchannel⟩ := hrelates _ _ htwins.ipv4
  exact ⟨hanswer, { htwins with ipv4 := hchannel }⟩

theorem relates_onIPv6 {one : Action (Channel .ipv6 (SimulatedKernel .ipv6) τ) α}
    {other : Action (Channel .ipv6 (SimulatedKernel .ipv6) τ') α}
    (hrelates : Relates Channel.Alike Eq one other) :
    Relates Twins Eq (onIPv6 one : Action (Simulated τ) α)
      (onIPv6 other : Action (Simulated τ') α) := by
  intro manager manager' htwins
  obtain ⟨hanswer, hchannel⟩ := hrelates _ _ htwins.ipv6
  exact ⟨hanswer, { htwins with ipv6 := hchannel }⟩

theorem relates_enableWanted (F : Family)
    {enable : InterfaceTable → Action (Simulated τ) (Except DaemonError InterfaceTable)}
    {enable' : InterfaceTable → Action (Simulated τ') (Except DaemonError InterfaceTable)}
    (hrelates : ∀ table, Relates Twins Eq (enable table) (enable' table)) :
    Relates Twins Eq (enableWanted F enable) (enableWanted F enable') := by
  refine .bind_eq (.read fun _ _ htwins => htwins.config) fun config => ?_
  split
  · refine .bind_eq (.read fun _ _ htwins => htwins.interfaces) fun interfaces => ?_
    refine .bind_eq (hrelates interfaces) fun result => ?_
    cases result with
    | ok annotated =>
        exact .bind_eq (.update fun _ _ htwins => { htwins with interfaces := rfl })
          fun _ => .pure rfl
    | error err => exact .pure rfl
  · exact .pure rfl

theorem relates_applyRoutes :
    Relates Twins Eq (applyRoutes : Action (Simulated τ) Summary)
      (applyRoutes : Action (Simulated τ') Summary) := by
  refine .bind_eq (.read fun _ _ htwins => htwins.config) fun config => ?_
  refine .bind_eq (.read fun _ _ htwins => htwins.interfaces) fun interfaces => ?_
  refine .bind_eq (.each (List.forall₂_same.mpr fun entry _ => ?_)) fun _ => .pure rfl
  rw [applyOne, applyOne]
  split
  · exact relates_onIPv4 (relates_applyEntry rfl _ entry)
  · exact relates_onIPv6 (relates_applyEntry rfl _ entry)

variable [Sysctl τ] [Sysctl τ']

theorem relates_enableFamily_self (table : InterfaceTable) :
    Relates Channel.Alike Eq
      (enableFamily table : Action (Channel F (SimulatedKernel F) τ) _)
      (enableFamily table : Action (Channel F (SimulatedKernel F) τ') _) := by
  intro one other halike
  have hself : table.seenBy F = table.seenBy F := rfl
  obtain ⟨hanswers, hstate⟩ := relates_enableFamily hself one other halike
  refine ⟨?_, hstate⟩
  cases hone : (enableFamily table one).answer with
  | error err =>
      cases hother : (enableFamily table other).answer with
      | error err' => simpa [hone, hother, Except.map] using hanswers
      | ok annotated' => simp [hone, hother, Except.map] at hanswers
  | ok annotated =>
      cases hother : (enableFamily table other).answer with
      | error err' => simp [hone, hother, Except.map] at hanswers
      | ok annotated' =>
          have hseen : annotated.seenBy F = annotated'.seenBy F := by
            simpa [hone, hother, Except.map] using hanswers
          refine congrArg Except.ok (InterfaceTable.eq_of_seenBy fun G => ?_)
          -- the slots of another family are those of the table on either side
          by_cases hne : G ≠ F
          · rw [(annotates_enableFamily hone).seenBy_eq hne,
              (annotates_enableFamily hother).seenBy_eq hne]
          · obtain rfl : G = F := by simpa using hne
            exact hseen

theorem relates_start (table : InterfaceTable) :
    Relates Twins Eq (start table : Action (Simulated τ) (Except DaemonError Summary))
      (start table : Action (Simulated τ') (Except DaemonError Summary)) := by
  refine .within _ _ ?_
  refine .bind_eq (.update fun _ _ htwins => { htwins with interfaces := rfl }) fun _ => ?_
  refine .bind_eq ?_ fun first => ?_
  · exact relates_enableWanted .ipv4 fun table => relates_onIPv4 (relates_enableFamily_self table)
  cases first with
  | error err => exact .pure rfl
  | ok =>
      refine .bind_eq ?_ fun second => ?_
      · exact relates_enableWanted .ipv6 fun table =>
          relates_onIPv6 (relates_enableFamily_self table)
      cases second with
      | error err => exact .pure rfl
      | ok => exact .bind_eq relates_applyRoutes fun _ => .bind_eq (.log _ _) fun _ => .pure rfl

end Relates

variable [Sysctl τ] [Sysctl τ'] {manager : Simulated τ}

/-- A reload leads to where a new manager is started to, over kernels that fail as these do now. -/
theorem Reachable.reload_stands (hreachable : manager.Reachable) (config : Config)
    (table : InterfaceTable) (sysctl : τ') :
    let started := start table (.ofConfig config { faults := manager.ipv4.kernel.faults }
      { faults := manager.ipv6.kernel.faults } sysctl : Simulated τ')
    (reload config table manager).answer = started.answer ∧
      SameStanding (reload config table manager).state started.state := by
  intro started
  obtain ⟨hanswer, hstate⟩ := reload_eq_start hreachable config table
  have hnew : Twins (manager.renewed config) (.ofConfig config
      { faults := manager.ipv4.kernel.faults } { faults := manager.ipv6.kernel.faults }
        sysctl : Simulated τ') :=
    ⟨rfl, rfl, Channel.alike_fresh .., Channel.alike_fresh ..⟩
  obtain ⟨hsame, htwins⟩ := relates_start table _ _ hnew
  rw [hanswer, hstate]
  exact ⟨hsame, htwins.sameStanding.after _ _⟩

end Manager

end Multicast
