import Multicast.Proofs.Manager.Operation

/-!
# What the channels of a manager keep

Over any kernels, a manager enables its channels, adds routes to them and gives them up, and does
nothing else with them. So a property of channels that these three keep is kept by a start, by a
reload, and by the end of the manager.
-/

namespace Multicast

open Multicast.Action

variable {F : Family} {κ κ₄ κ₆ τ : Type}

namespace Manager

structure Keeps (keeps₄ : Channel .ipv4 κ₄ τ → Prop) (keeps₆ : Channel .ipv6 κ₆ τ → Prop)
    (manager : Manager κ₄ κ₆ τ) : Prop where
  ipv4 : keeps₄ manager.ipv4
  ipv6 : keeps₆ manager.ipv6

section Steps

variable [Kernel F κ] [Sysctl τ] {keeps : Channel F κ τ → Prop} {channel : Channel F κ τ}

theorem keeps_enableFamily (hinvariant : Channel.Invariant keeps) (interfaces : InterfaceTable)
    (hkeeps : keeps channel) : keeps (enableFamily interfaces channel).state := by
  rw [state_enableFamily]
  exact hinvariant.enable interfaces channel hkeeps

theorem keeps_applyEntry (hinvariant : Channel.Invariant keeps) (interfaces : InterfaceTable)
    (defaultTtl : UInt8) (entry : RouteEntry) (hkeeps : keeps channel) :
    keeps (applyEntry interfaces defaultTtl entry channel).state := by
  obtain hsame | ⟨route, -, hadd⟩ := state_applyEntry interfaces defaultTtl entry channel
  · rwa [hsame]
  · rw [hadd]
    exact hinvariant.add route channel hkeeps

end Steps

variable {keeps₄ : Channel .ipv4 κ₄ τ → Prop} {keeps₆ : Channel .ipv6 κ₆ τ → Prop}
  {manager : Manager κ₄ κ₆ τ}

theorem Keeps.enableWanted (F : Family)
    {enable : InterfaceTable → Action (Manager κ₄ κ₆ τ) (Except DaemonError InterfaceTable)}
    (henable : ∀ table, Keeps keeps₄ keeps₆ (enable table manager).state)
    (hkeeps : Keeps keeps₄ keeps₆ manager) :
    Keeps keeps₄ keeps₆ (Manager.enableWanted F enable manager).state := by
  obtain ⟨-, -, hstate⟩ | ⟨-, err, -, -, hstate⟩ | ⟨-, interfaces, -, -, hstate⟩ :=
    enableWanted_cases F enable manager
  · rwa [hstate]
  · rw [hstate]
    exact henable manager.interfaces
  · rw [hstate]
    exact ⟨(henable manager.interfaces).ipv4, (henable manager.interfaces).ipv6⟩

variable [Kernel .ipv4 κ₄] [Kernel .ipv6 κ₆] [Sysctl τ]

theorem Keeps.applyRoutes (hipv4 : Channel.Invariant keeps₄) (hipv6 : Channel.Invariant keeps₆)
    (hkeeps : Keeps keeps₄ keeps₆ manager) :
    Keeps keeps₄ keeps₆ (Manager.applyRoutes manager).state := by
  refine Action.state_each_of_forall (Keeps keeps₄ keeps₆) ?_ hkeeps
  intro entry _ before hbefore
  rw [applyOne]
  split
  · exact ⟨keeps_applyEntry hipv4 _ _ entry hbefore.ipv4, hbefore.ipv6⟩
  · exact ⟨hbefore.ipv4, keeps_applyEntry hipv6 _ _ entry hbefore.ipv6⟩

theorem Keeps.start (hipv4 : Channel.Invariant keeps₄) (hipv6 : Channel.Invariant keeps₆)
    (hkeeps : Keeps keeps₄ keeps₆ manager) (table : InterfaceTable) :
    Keeps keeps₄ keeps₆ (Manager.start table manager).state := by
  have hplaced : Keeps keeps₄ keeps₆ { manager with interfaces := table } :=
    ⟨hkeeps.ipv4, hkeeps.ipv6⟩
  have hfirst : Keeps keeps₄ keeps₆ (enableIPv4 { manager with interfaces := table }).state :=
    hplaced.enableWanted .ipv4 fun table =>
      ⟨keeps_enableFamily hipv4 table hplaced.ipv4, hplaced.ipv6⟩
  have hsecond : Keeps keeps₄ keeps₆
      (enableIPv6 (enableIPv4 { manager with interfaces := table }).state).state :=
    hfirst.enableWanted .ipv6 fun table =>
      ⟨hfirst.ipv4, keeps_enableFamily hipv6 table hfirst.ipv6⟩
  obtain ⟨err, -, -, hstate⟩ | ⟨-, err, -, -, hstate⟩ | ⟨-, -, -, hstate⟩ :=
    start_cases table manager rfl rfl
  · rwa [hstate]
  · rwa [hstate]
  · rw [hstate]
    exact hsecond.applyRoutes hipv4 hipv6

theorem Keeps.stop (hipv4 : Channel.Invariant keeps₄) (hipv6 : Channel.Invariant keeps₆)
    (hkeeps : Keeps keeps₄ keeps₆ manager) :
    Keeps keeps₄ keeps₆ (Manager.stop manager).state :=
  ⟨hipv4.disable manager.ipv4 hkeeps.ipv4, hipv6.disable manager.ipv6 hkeeps.ipv6⟩

theorem Keeps.reload (hipv4 : Channel.Invariant keeps₄) (hipv6 : Channel.Invariant keeps₆)
    (hkeeps : Keeps keeps₄ keeps₆ manager) (config : Config) (table : InterfaceTable) :
    Keeps keeps₄ keeps₆ (Manager.reload config table manager).state := by
  have hstopped := hkeeps.stop hipv4 hipv6
  have hconfigured : Keeps keeps₄ keeps₆ { (Manager.stop manager).state with config } :=
    ⟨hstopped.ipv4, hstopped.ipv6⟩
  rw [state_reload]
  exact hconfigured.start hipv4 hipv6 table

end Manager

theorem Channel.invariant_faults [Sysctl τ] (faults : KernelFaults) :
    Channel.Invariant fun channel : Channel F (SimulatedKernel F) τ =>
      channel.kernel.faults = faults where
  enable := fun table channel hfaults => (faults_enable table channel).trans hfaults
  disable := fun channel hfaults => (faults_disable channel).trans hfaults
  add := fun route channel hfaults => by
    rw [state_add]
    split
    · exact (SimulatedKernel.frame_foldl_apply _ channel.kernel).2.2.trans hfaults
    · exact hfaults

end Multicast
