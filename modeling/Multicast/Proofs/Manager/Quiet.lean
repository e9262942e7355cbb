import Multicast.Proofs.Channel.Quiet
import Multicast.Proofs.Manager.Family
import Multicast.Proofs.Manager.Reporting

/-!
# A start at which nothing fails

No failure of a kernel is silent. And a start at which none fails logs no warning and no error, as
long as there is a slot for each interface and a route for each entry.
-/

namespace Multicast

open Multicast.Action

variable {F : Family} {κ κ₄ κ₄' κ₆ κ₆' τ τ' : Type}

def Channel.footing (channel : Channel F κ τ) : Phase × Bool × SlotTable :=
  (channel.phase, channel.holdsSocket, channel.slots)

namespace Manager

variable [Kernel F κ] {onKernel : κ → Nat} {onSysctl : τ → Nat}

theorem footing_applyEntry (interfaces : InterfaceTable) (defaultTtl : UInt8) (entry : RouteEntry)
    (channel : Channel F κ τ) :
    (applyEntry interfaces defaultTtl entry channel).state.footing = channel.footing := by
  obtain hsame | ⟨route, -, hadd⟩ := state_applyEntry interfaces defaultTtl entry channel
  · rw [hsame]
  · rw [hadd, Channel.state_add]
    split <;> rfl

theorem applyEntry_of_cost_eq (hkernel : Kernel.Counts onKernel) {interfaces : InterfaceTable}
    {defaultTtl : UInt8} {entry : RouteEntry} {channel : Channel F κ τ}
    (hholds : channel.phase = .enabled → channel.holdsSocket = true)
    (hbuilds : channel.phase = .enabled →
      ∃ route, entry.toRoute F interfaces defaultTtl = .ok route)
    (hcost : (applyEntry interfaces defaultTtl entry channel).state.cost onKernel onSysctl =
      channel.cost onKernel onSysctl) :
    alarms (applyEntry interfaces defaultTtl entry channel).events = 0 := by
  by_cases hphase : channel.phase = .enabled
  · obtain ⟨route, hroute⟩ := hbuilds hphase
    have hstate : (applyEntry interfaces defaultTtl entry channel).state =
        (Channel.add route channel).state := by
      cases hadd : (Channel.add route channel).answer <;>
        simp [applyEntry, Channel.isEnabled, hphase, hroute, hadd]
    rw [hstate] at hcost
    obtain ⟨hanswer, hevents⟩ := Channel.add_of_cost_eq hkernel route (hholds hphase) hcost
    simp [applyEntry, Channel.isEnabled, hphase, hroute, hanswer, hevents]
  · have hevents : (applyEntry interfaces defaultTtl entry channel).events =
        [routeSkipped F entry] := by
      simp [applyEntry, Channel.isEnabled, hphase]
    rw [hevents]
    exact alarms_singleton_eq_zero rfl

theorem enableFamily_of_cost_eq [Sysctl τ] (hkernel : Kernel.Counts onKernel)
    (hsysctl : Sysctl.Counts onSysctl) (interfaces : InterfaceTable) {channel : Channel F κ τ}
    (hphase : channel.phase ≠ .enabled)
    (hcost : (enableFamily interfaces channel).state.cost onKernel onSysctl =
      channel.cost onKernel onSysctl) :
    let run := enableFamily interfaces channel
    run.state.phase = .enabled ∧ run.state.holdsSocket = true ∧
      ∃ annotated, run.answer = .ok annotated ∧
        (alarms run.events = 0 ∨ Channel.Crowded F annotated.entries run.state.slots) := by
  intro run
  have hstate : run.state = (Channel.enable interfaces channel).state :=
    state_enableFamily interfaces channel
  rw [state_enableFamily] at hcost
  obtain ⟨henabled, hholds, annotated, hanswer, hquiet⟩ :=
    Channel.enable_of_cost_eq hkernel hsysctl interfaces hphase hcost
  have hevents : run.events = (Channel.enable interfaces channel).events := by
    simp [run, enableFamily, hanswer]
  refine ⟨hstate ▸ henabled, hstate ▸ hholds, annotated, ?_, ?_⟩
  · rw [answer_enableFamily, hanswer]
  · rwa [hevents, hstate]

/-! ### Either family of a manager over any kernels -/

section Status

def hasEnabled (manager : Manager κ₄ κ₆ τ) : Family → Bool
  | .ipv4 => manager.ipv4.isEnabled
  | .ipv6 => manager.ipv6.isEnabled

def slotsOf (manager : Manager κ₄ κ₆ τ) : Family → SlotTable
  | .ipv4 => manager.ipv4.slots
  | .ipv6 => manager.ipv6.slots

/-- An interface is left without a slot of an enabled family, for lack of capacity. -/
def Crowded (F : Family) (manager : Manager κ₄ κ₆ τ) : Prop :=
  manager.hasEnabled F = true ∧ Channel.Crowded F manager.interfaces.entries (manager.slotsOf F)

/-- The entry's route can be built, if its family is enabled. -/
def Builds (manager : Manager κ₄ κ₆ τ) (entry : RouteEntry) : Prop :=
  manager.hasEnabled entry.family = true →
    (entry.toRoute entry.family manager.interfaces manager.config.daemon.defaultTtl).isOk = true

instance (F : Family) (manager : Manager κ₄ κ₆ τ) : Decidable (manager.Crowded F) :=
  inferInstanceAs (Decidable (_ ∧ _))

instance (manager : Manager κ₄ κ₆ τ) (entry : RouteEntry) : Decidable (manager.Builds entry) :=
  inferInstanceAs (Decidable (_ → _))

def standing (manager : Manager κ₄ κ₆ τ) :
    Config × InterfaceTable × (Phase × Bool × SlotTable) × (Phase × Bool × SlotTable) :=
  (manager.config, manager.interfaces, manager.ipv4.footing, manager.ipv6.footing)

end Status

theorem enableWanted_of_cost_eq [Sysctl τ] (hkernel : Kernel.Counts onKernel)
    (hsysctl : Sysctl.Counts onSysctl) (part : Manager κ₄ κ₆ τ → Channel F κ τ)
    (put : Channel F κ τ → Manager κ₄ κ₆ τ → Manager κ₄ κ₆ τ) {total : Manager κ₄ κ₆ τ → Nat}
    (hput : ∀ after manager, total (put after manager) + (part manager).cost onKernel onSysctl =
      total manager + after.cost onKernel onSysctl)
    (htotal : ∀ (manager : Manager κ₄ κ₆ τ) interfaces,
      total { manager with interfaces } = total manager)
    {manager : Manager κ₄ κ₆ τ} {run : Outcome (Manager κ₄ κ₆ τ) (Except DaemonError Unit)}
    (hrun : enableWanted F (fun table => Action.on part put (enableFamily table)) manager = run)
    (hphase : (part manager).phase ≠ .enabled) (hcost : total run.state = total manager) :
    run.answer = .ok () ∧
      (run.state = manager ∧ run.events = [] ∨
        ∃ annotated after, Annotates F manager.interfaces annotated ∧
          run.state = { put after manager with interfaces := annotated } ∧
          after.phase = .enabled ∧ after.holdsSocket = true ∧
          (alarms run.events = 0 ∨ Channel.Crowded F annotated.entries after.slots)) := by
  cases hwants : manager.config.wants F with
  | false => simp [← hrun, enableWanted, hwants]
  | true =>
      have hput' := hput (enableFamily manager.interfaces (part manager)).state manager
      have hstate : total run.state =
          total (put (enableFamily manager.interfaces (part manager)).state manager) := by
        obtain ⟨hnot, -⟩ | ⟨-, err, -, -, hstate⟩ | ⟨-, interfaces, -, -, hstate⟩ :=
          enableWanted_cases F (fun table => Action.on part put (enableFamily table)) manager
        · rw [hwants] at hnot
          cases hnot
        · exact congrArg total (hrun ▸ hstate)
        · exact (congrArg total (hrun ▸ hstate)).trans (htotal _ interfaces)
      obtain ⟨henabled, hholds, annotated, hanswer, hquiet⟩ :=
        enableFamily_of_cost_eq hkernel hsysctl manager.interfaces hphase (by omega)
      refine ⟨by simp [← hrun, enableWanted, hwants, hanswer], .inr ⟨annotated, _,
        annotates_enableFamily hanswer, ?_, henabled, hholds, ?_⟩⟩
      · simp [← hrun, enableWanted, hwants, hanswer]
      · have hevents : run.events =
            (enableFamily manager.interfaces (part manager)).events := by
          simp [← hrun, enableWanted, hwants, hanswer, Action.on]
        rwa [hevents]

theorem crowded_of_seenBy {table annotated : InterfaceTable} {slots : SlotTable}
    (hseen : annotated.seenBy F = table.seenBy F)
    (hcrowded : Channel.Crowded F table.entries slots) :
    Channel.Crowded F annotated.entries slots := by
  have hseenBy : ∀ others : InterfaceTable,
      (∃ iface ∈ others.entries, iface.isLoopback = false ∧ F.slotOf iface = none) ↔
        ∃ iface ∈ others.seenBy F, iface.isLoopback = false ∧ F.slotOf iface = none := by
    intro others
    simp [InterfaceTable.seenBy]
  refine ⟨hcrowded.1, ?_⟩
  rw [hseenBy, hseen, ← hseenBy]
  exact hcrowded.2

section Kernels

variable [Kernel .ipv4 κ₄] [Kernel .ipv6 κ₆] [Sysctl τ] {ipv4 : κ₄ → Nat} {ipv6 : κ₆ → Nat}
  {manager : Manager κ₄ κ₆ τ} {run : Outcome (Manager κ₄ κ₆ τ) (Except DaemonError Unit)}

omit [Kernel .ipv6 κ₆] in
theorem enableIPv4_of_cost_eq (hipv4 : Kernel.Counts ipv4) (hsysctl : Sysctl.Counts onSysctl)
    (hrun : enableIPv4 manager = run) (hphase : manager.ipv4.phase ≠ .enabled)
    (hcost : run.state.cost ipv4 ipv6 onSysctl = manager.cost ipv4 ipv6 onSysctl) :
    run.answer = .ok () ∧ run.state.config = manager.config ∧ run.state.ipv6 = manager.ipv6 ∧
      (run.state.ipv4.phase = .enabled → run.state.ipv4.holdsSocket = true) ∧
      (alarms run.events = 0 ∨ run.state.Crowded .ipv4) := by
  obtain ⟨hanswer, ⟨hstate, hevents⟩ | ⟨annotated, after, -, hstate, henabled, hholds, hquiet⟩⟩ :=
    enableWanted_of_cost_eq hipv4 hsysctl Manager.ipv4 (fun ipv4 manager => { manager with ipv4 })
      (fun after manager => by simp only [cost]; omega) (fun _ _ => rfl) hrun hphase hcost
  · rw [hstate, hevents]
    exact ⟨hanswer, rfl, rfl, fun henabled => absurd henabled hphase, .inl alarms_nil⟩
  · rw [hstate]
    refine ⟨hanswer, rfl, rfl, fun _ => hholds, hquiet.imp_right fun hcrowded => ⟨?_, hcrowded⟩⟩
    exact decide_eq_true henabled

omit [Kernel .ipv4 κ₄] in
theorem enableIPv6_of_cost_eq (hipv6 : Kernel.Counts ipv6) (hsysctl : Sysctl.Counts onSysctl)
    (hrun : enableIPv6 manager = run) (hphase : manager.ipv6.phase ≠ .enabled)
    (hcost : run.state.cost ipv4 ipv6 onSysctl = manager.cost ipv4 ipv6 onSysctl) :
    run.answer = .ok () ∧ run.state.config = manager.config ∧ run.state.ipv4 = manager.ipv4 ∧
      Annotates .ipv6 manager.interfaces run.state.interfaces ∧
      (run.state.ipv6.phase = .enabled → run.state.ipv6.holdsSocket = true) ∧
      (alarms run.events = 0 ∨ run.state.Crowded .ipv6) := by
  obtain ⟨hanswer, ⟨hstate, hevents⟩ |
      ⟨annotated, after, hannotates, hstate, henabled, hholds, hquiet⟩⟩ :=
    enableWanted_of_cost_eq hipv6 hsysctl Manager.ipv6 (fun ipv6 manager => { manager with ipv6 })
      (fun after manager => by simp only [cost]; omega) (fun _ _ => rfl) hrun hphase hcost
  · rw [hstate, hevents]
    exact ⟨hanswer, rfl, rfl, .inl rfl, fun henabled => absurd henabled hphase, .inl alarms_nil⟩
  · rw [hstate]
    refine ⟨hanswer, rfl, rfl, hannotates, fun _ => hholds,
      hquiet.imp_right fun hcrowded => ⟨?_, hcrowded⟩⟩
    exact decide_eq_true henabled

omit [Sysctl τ]

theorem standing_applyOne (interfaces : InterfaceTable) (defaultTtl : UInt8)
    (entry : RouteEntry) (manager : Manager κ₄ κ₆ τ) :
    (applyOne interfaces defaultTtl entry manager).state.standing = manager.standing := by
  unfold applyOne
  split
  · simp only [standing, state_onIPv4, footing_applyEntry]
  · simp only [standing, state_onIPv6, footing_applyEntry]

theorem standing_applyRoutes (manager : Manager κ₄ κ₆ τ) :
    (applyRoutes manager).state.standing = manager.standing :=
  Action.state_each_of_forall (fun after : Manager κ₄ κ₆ τ => after.standing = manager.standing)
    (fun entry _ before hbefore => (standing_applyOne _ _ entry before).trans hbefore) rfl

theorem applyOne_of_cost_eq (hipv4 : Kernel.Counts ipv4) (hipv6 : Kernel.Counts ipv6)
    (hholds₄ : manager.ipv4.phase = .enabled → manager.ipv4.holdsSocket = true)
    (hholds₆ : manager.ipv6.phase = .enabled → manager.ipv6.holdsSocket = true)
    {entry : RouteEntry} (hbuilds : manager.Builds entry) {before : Manager κ₄ κ₆ τ}
    (hsame : before.standing = manager.standing)
    (hcost : (applyOne manager.interfaces manager.config.daemon.defaultTtl entry
      before).state.cost ipv4 ipv6 onSysctl = before.cost ipv4 ipv6 onSysctl) :
    alarms (applyOne manager.interfaces manager.config.daemon.defaultTtl entry
      before).events = 0 := by
  simp only [standing, Channel.footing, Prod.mk.injEq] at hsame
  obtain ⟨-, -, ⟨hphase₄, hheld₄, -⟩, hphase₆, hheld₆, -⟩ := hsame
  unfold applyOne at hcost ⊢
  split at hcost
  · rename_i hipv4Entry
    have hfamily : entry.family = .ipv4 := if_pos hipv4Entry
    rw [Builds, hfamily] at hbuilds
    simp only [cost, state_onIPv4] at hcost
    rw [if_pos hipv4Entry]
    refine applyEntry_of_cost_eq hipv4 (fun henabled => ?_) (fun henabled => ?_)
      (Nat.add_right_cancel hcost)
    · rw [hheld₄, hholds₄ (hphase₄ ▸ henabled)]
    · exact isOk_iff.mp (hbuilds (decide_eq_true (hphase₄ ▸ henabled)))
  · rename_i hipv6Entry
    have hfamily : entry.family = .ipv6 := if_neg hipv6Entry
    rw [Builds, hfamily] at hbuilds
    simp only [cost, state_onIPv6] at hcost
    rw [if_neg hipv6Entry]
    refine applyEntry_of_cost_eq hipv6 (fun henabled => ?_) (fun henabled => ?_)
      (Nat.add_left_cancel hcost)
    · rw [hheld₆, hholds₆ (hphase₆ ▸ henabled)]
    · exact isOk_iff.mp (hbuilds (decide_eq_true (hphase₆ ▸ henabled)))

theorem applyRoutes_of_cost_eq (hipv4 : Kernel.Counts ipv4) (hipv6 : Kernel.Counts ipv6)
    (hholds₄ : manager.ipv4.phase = .enabled → manager.ipv4.holdsSocket = true)
    (hholds₆ : manager.ipv6.phase = .enabled → manager.ipv6.holdsSocket = true)
    (hbuilds : ∀ entry ∈ manager.config.routes, manager.Builds entry)
    (hcost : (applyRoutes manager).state.cost ipv4 ipv6 onSysctl =
      manager.cost ipv4 ipv6 onSysctl) : alarms (applyRoutes manager).events = 0 := by
  have hevents : (applyRoutes manager).events =
      (Action.each (applyOne manager.interfaces manager.config.daemon.defaultTtl)
        manager.config.routes manager).events := List.append_nil _
  rw [hevents]
  refine alarms_each_of_cost_eq (reports_applyOne hipv4 hipv6 _ _)
    (fun before => before.standing = manager.standing) (fun entry hentry before hsame => ?_)
    rfl hcost
  refine ⟨(standing_applyOne _ _ entry before).trans hsame, fun hstep => ?_⟩
  exact applyOne_of_cost_eq hipv4 hipv6 hholds₄ hholds₆ (hbuilds entry hentry) hsame hstep

omit [Kernel .ipv4 κ₄] [Kernel .ipv6 κ₆] in
theorem crowded_builds_congr {after : Manager κ₄ κ₆ τ} {before : Manager κ₄' κ₆' τ'}
    (hsame : after.standing = before.standing) :
    (∀ F, after.Crowded F ↔ before.Crowded F) ∧
      ∀ entry, after.Builds entry ↔ before.Builds entry := by
  simp only [standing, Channel.footing, Prod.mk.injEq] at hsame
  obtain ⟨hconfig, hinterfaces, ⟨hphase₄, -, hslots₄⟩, hphase₆, -, hslots₆⟩ := hsame
  have henabled : ∀ F, after.hasEnabled F = before.hasEnabled F := fun F => by
    cases F with
    | ipv4 => simp only [hasEnabled, Channel.isEnabled, hphase₄]
    | ipv6 => simp only [hasEnabled, Channel.isEnabled, hphase₆]
  have hslots : ∀ F, after.slotsOf F = before.slotsOf F := fun F => by
    cases F with
    | ipv4 => exact hslots₄
    | ipv6 => exact hslots₆
  constructor
  · intro F
    rw [Crowded, Crowded, henabled, hslots, hinterfaces]
  · intro entry
    rw [Builds, Builds, henabled, hinterfaces, hconfig]

/-- A start at which nothing fails completes, and nothing fails at any of its stages. -/
theorem start_completes_of_cost_eq [Sysctl τ] (hipv4 : Kernel.Counts ipv4)
    (hipv6 : Kernel.Counts ipv6) (hsysctl : Sysctl.Counts onSysctl) {table : InterfaceTable}
    {first second : Outcome (Manager κ₄ κ₆ τ) (Except DaemonError Unit)}
    (hfirst : enableIPv4 { manager with interfaces := table } = first)
    (hsecond : enableIPv6 first.state = second)
    (hphase₄ : manager.ipv4.phase ≠ .enabled) (hphase₆ : manager.ipv6.phase ≠ .enabled)
    (hcost : (start table manager).state.cost ipv4 ipv6 onSysctl =
      manager.cost ipv4 ipv6 onSysctl) :
    first.answer = .ok () ∧ second.answer = .ok () ∧
      (start table manager).state = (applyRoutes second.state).state ∧
      first.state.cost ipv4 ipv6 onSysctl = manager.cost ipv4 ipv6 onSysctl ∧
      second.state.cost ipv4 ipv6 onSysctl = first.state.cost ipv4 ipv6 onSysctl := by
  have hone : manager.cost ipv4 ipv6 onSysctl ≤ first.state.cost ipv4 ipv6 onSysctl :=
    hfirst ▸ (reports_enableIPv4 hipv4 hsysctl).le { manager with interfaces := table }
  have htwo : first.state.cost ipv4 ipv6 onSysctl ≤ second.state.cost ipv4 ipv6 onSysctl :=
    hsecond ▸ (reports_enableIPv6 hipv6 hsysctl).le first.state
  have hthree : second.state.cost ipv4 ipv6 onSysctl ≤
      (applyRoutes second.state).state.cost ipv4 ipv6 onSysctl :=
    (reports_applyRoutes hipv4 hipv6).le second.state
  have hcost₄ : first.state.cost ipv4 ipv6 onSysctl = manager.cost ipv4 ipv6 onSysctl := by
    obtain ⟨-, -, -, hstate⟩ | ⟨-, -, -, -, hstate⟩ | ⟨-, -, -, hstate⟩ :=
      start_cases table manager hfirst hsecond <;>
    · rw [hstate] at hcost
      omega
  obtain ⟨hok, -, hsame₆, -⟩ := enableIPv4_of_cost_eq hipv4 hsysctl hfirst hphase₄ hcost₄
  obtain ⟨err, hfails, -⟩ | ⟨-, err, hfails, -, hstate⟩ | ⟨-, hok', -, hstate⟩ :=
    start_cases table manager hfirst hsecond
  · rw [hok] at hfails
    cases hfails
  · rw [hstate] at hcost
    rw [(enableIPv6_of_cost_eq hipv6 hsysctl hsecond (hsame₆ ▸ hphase₆)
      (hcost.trans hcost₄.symm)).1] at hfails
    cases hfails
  · rw [hstate] at hcost
    exact ⟨hok, hok', hstate, hcost₄, by omega⟩

theorem start_of_cost_eq [Sysctl τ] (hipv4 : Kernel.Counts ipv4) (hipv6 : Kernel.Counts ipv6)
    (hsysctl : Sysctl.Counts onSysctl) (table : InterfaceTable)
    (hphase₄ : manager.ipv4.phase ≠ .enabled) (hphase₆ : manager.ipv6.phase ≠ .enabled)
    (hcost : (start table manager).state.cost ipv4 ipv6 onSysctl =
      manager.cost ipv4 ipv6 onSysctl)
    (hspace : ∀ F, ¬(start table manager).state.Crowded F)
    (hbuilds : ∀ entry ∈ manager.config.routes, (start table manager).state.Builds entry) :
    alarms (start table manager).events = 0 := by
  obtain ⟨first, hfirst⟩ : ∃ first, enableIPv4 { manager with interfaces := table } = first :=
    ⟨_, rfl⟩
  obtain ⟨second, hsecond⟩ : ∃ second, enableIPv6 first.state = second := ⟨_, rfl⟩
  obtain ⟨hok, hok', hstate, hcost₄, hcost₆⟩ :=
    start_completes_of_cost_eq hipv4 hipv6 hsysctl hfirst hsecond hphase₄ hphase₆ hcost
  obtain ⟨-, hconfig, hsame₆, hholds₄, hquiet₄⟩ :=
    enableIPv4_of_cost_eq hipv4 hsysctl hfirst hphase₄ hcost₄
  obtain ⟨-, hconfig', hsame₄, hannotates, hholds₆, hquiet₆⟩ :=
    enableIPv6_of_cost_eq hipv6 hsysctl hsecond (hsame₆ ▸ hphase₆) hcost₆
  rw [hstate] at hcost hspace hbuilds
  obtain ⟨hcrowded, hbuildable⟩ := crowded_builds_congr (standing_applyRoutes second.state)
  have hevents : alarms (start table manager).events = alarms first.events +
      (alarms second.events + alarms (applyRoutes second.state).events) := by
    have hlast : alarms [routesApplied (applyRoutes second.state).answer] = 0 :=
      alarms_singleton_eq_zero rfl
    rw [start_eq]
    simp [hfirst, hok, hsecond, hok', hlast]
  have hroutes : alarms (applyRoutes second.state).events = 0 := by
    refine applyRoutes_of_cost_eq hipv4 hipv6 ?_ hholds₆ (fun entry hentry => ?_)
      (hcost.trans (hcost₆.trans hcost₄).symm)
    · rw [hsame₄]
      exact hholds₄
    · rw [hconfig', hconfig] at hentry
      exact (hbuildable entry).mp (hbuilds entry hentry)
  have hfirstQuiet : alarms first.events = 0 := by
    -- enabling the other family leaves this one's slots, and its annotations of the interfaces
    refine hquiet₄.resolve_right fun hfull => hspace .ipv4 ((hcrowded .ipv4).mpr ?_)
    have hseen := hannotates.seenBy_eq (F := .ipv4) (by decide)
    have hslots : second.state.slotsOf .ipv4 = first.state.slotsOf .ipv4 :=
      congrArg Channel.slots hsame₄
    have henabled : second.state.hasEnabled .ipv4 = first.state.hasEnabled .ipv4 :=
      congrArg Channel.isEnabled hsame₄
    rw [Crowded, henabled, hslots]
    exact ⟨hfull.1, crowded_of_seenBy hseen hfull.2⟩
  have hsecondQuiet : alarms second.events = 0 :=
    hquiet₆.resolve_right fun hfull => hspace .ipv6 ((hcrowded .ipv6).mpr hfull)
  rw [hevents, hfirstQuiet, hsecondQuiet, hroutes]

end Kernels

section Reported

variable [Kernel .ipv4 κ₄] [Kernel .ipv6 κ₆] [Sysctl τ]

/-- **No failure is silent:** a manager logs at least as many warnings and errors as calls and
writes fail, those without permission apart, and a start at which nothing is amiss logs none. -/
theorem failures_reported (manager : Manager κ₄ κ₆ τ) :
    (∀ work : Work Registry.Operation,
      let heard := work.perform manager.listened
      work.perform manager = ⟨(), heard.state.unheard, heard.events⟩ ∧
        heard.state.failures ≤ alarms (work.perform manager).events) ∧
    ∀ table, manager.ipv4.isEnabled = false → manager.ipv6.isEnabled = false →
      let started := (start table manager).state
      (start table manager.listened).state.failures = 0 → (∀ F, ¬started.Crowded F) →
      (∀ entry ∈ manager.config.routes, started.Builds entry) →
        alarms (start table manager).events = 0 := by
  refine ⟨fun work => ?_, fun table hipv4 hipv6 => ?_⟩
  · intro heard
    have hplain : work.perform manager = ⟨(), heard.state.unheard, heard.events⟩ :=
      work.projects_perform Heard.projects_kernel Heard.projects_kernel Watched.projects_sysctl
        manager.listened
    have hreports : heard.state.failures ≤ manager.listened.failures + alarms heard.events :=
      (work.reports_perform Heard.counts_failures Heard.counts_failures Watched.counts_failures
        manager.listened).2
    have hnothing : manager.listened.failures = 0 := rfl
    rw [hnothing, Nat.zero_add] at hreports
    exact ⟨hplain, hplain ▸ hreports⟩
  · intro started hfailures hspace hbuilds
    have hplain : start table manager = ⟨(start table manager.listened).answer,
        (start table manager.listened).state.unheard, (start table manager.listened).events⟩ :=
      projects_start Heard.projects_kernel Heard.projects_kernel Watched.projects_sysctl table
        manager.listened
    have hstanding : started.standing = (start table manager.listened).state.standing := by
      rw [show started = _ from congrArg Outcome.state hplain]
      rfl
    obtain ⟨hcrowded, hbuildable⟩ := crowded_builds_congr hstanding
    rw [hplain]
    refine start_of_cost_eq Heard.counts_failures Heard.counts_failures Watched.counts_failures
      table (of_decide_eq_false hipv4) (of_decide_eq_false hipv6) hfailures (fun F hfull => ?_)
      fun entry hentry => ?_
    · exact hspace F ((hcrowded F).mpr hfull)
    · exact (hbuildable entry).mp (hbuilds entry hentry)

end Reported

def unwilling : Simulated RecordingSysctl :=
  (run [.start .basic, .ipv4 (.inject { done := some 5 })] twoWaysManager).state

theorem failures_reported_twoWays :
    (twoWaysManager.ipv4.isEnabled = false ∧ twoWaysManager.ipv6.isEnabled = false ∧
      (start .basic twoWaysManager.listened).state.failures = 0 ∧
      alarms (start .basic twoWaysManager).events = 0) ∧
    (Work.stop.perform unwilling.listened).state.failures = 1 ∧
      1 ≤ alarms (Work.stop.perform unwilling).events := by
  have hdisabled : twoWaysManager.ipv4.isEnabled = false ∧
      twoWaysManager.ipv6.isEnabled = false := by decide
  have hfailures : (start .basic twoWaysManager.listened).state.failures = 0 := by decide +kernel
  have hstop : (Work.stop.perform unwilling.listened).state.failures = 1 := by decide +kernel
  refine ⟨⟨hdisabled.1, hdisabled.2, hfailures, ?_⟩, hstop, ?_⟩
  · refine (failures_reported twoWaysManager).2 .basic hdisabled.1 hdisabled.2 hfailures ?_ ?_
    · intro F
      cases F <;> decide +kernel
    · decide +kernel
  · exact hstop ▸ ((failures_reported unwilling).1 .stop).2

end Manager

end Multicast
