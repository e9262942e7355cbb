import Multicast.Interface.Samples
import Multicast.Proofs.Manager.Operation

/-!
# Which switch is turned on with IPv6

The switch for IPv6 forwarding is a setting, and a manager is reloaded with other settings. But it
is the channel that keeps the path of the switch, from when the manager was made: each time that
IPv6 is enabled this path is written to, whatever configuration is held by then.
-/

namespace Multicast

open Multicast.Action

variable {F : Family} {κ κ₄ κ₆ τ : Type}

def writesOf (switch : Option String) : List (String × Bool) :=
  switch.toList.map fun path => (path, true)

theorem writesOf_inj {switch other : Option String} :
    writesOf switch = writesOf other ↔ switch = other := by
  cases switch <;> cases other <;> simp [writesOf]

namespace RecordingSysctl

def tried (sysctl : RecordingSysctl) (switch : Option String) : RecordingSysctl :=
  { sysctl with writes := sysctl.writes ++ writesOf switch }

@[simp]
theorem tried_none (sysctl : RecordingSysctl) : sysctl.tried none = sysctl := by
  simp [tried, writesOf]

theorem tried_some (sysctl : RecordingSysctl) (path : String) :
    sysctl.tried (some path) = (Sysctl.setBool path true sysctl).2 := by
  cases hfailure : sysctl.failure <;> simp [tried, writesOf, Sysctl.setBool, hfailure]

end RecordingSysctl

/-- The path of the switch for IPv6 forwarding, unless it is left out or empty. -/
def Config.switch? (config : Config) : Option String :=
  config.daemon.forwardingSwitch.filter fun path => !path.isEmpty

namespace Channel

section Kernels

variable [Kernel F κ]

theorem wiring_claim (channel : Channel F κ τ) :
    (claim channel).state.wiring = channel.wiring := by
  obtain ⟨cause, -, -, hstate⟩ | ⟨cause, -, -, -, hstate⟩ | ⟨-, -, -, hstate⟩ := claim_cases channel
  · rw [hstate]
    rfl
  · rw [hstate]
    rfl
  · rw [hstate]
    rfl

theorem wiring_each_registerInterface (entries : List Interface) (channel : Channel F κ τ) :
    (Action.each registerInterface entries channel).state.wiring = channel.wiring := by
  refine Action.state_each_of_forall
    (fun after : Channel F κ τ => after.wiring = channel.wiring) ?_ rfl
  rintro iface - before hbefore
  obtain hslots | ⟨slot, annotated, hkernel⟩ := state_registerInterface iface before
  · rw [hslots]
    exact hbefore
  · rw [hkernel]
    exact hbefore

omit [Kernel F κ] in
theorem wiring_whenEnabled (action : Action (Registry F × κ) (Except RoutingError Unit))
    (channel : Channel F κ τ) : (whenEnabled action channel).state.wiring = channel.wiring := by
  by_cases hholds : channel.holdsSocket = true <;>
    simp [whenEnabled, onRegistry, Action.on, wiring, hholds]

end Kernels

theorem wiring_enableForwarding (channel : Channel F κ RecordingSysctl) :
    (enableForwarding channel).state.wiring =
      (channel.sysctl.tried channel.forwardingSwitch, channel.forwardingSwitch) := by
  obtain hswitch | ⟨path, hswitch⟩ := Option.eq_none_or_eq_some channel.forwardingSwitch
  · simp [enableForwarding, wiring, hswitch]
  · rw [hswitch, RecordingSysctl.tried_some]
    cases hset : (Sysctl.setBool path true channel.sysctl).1 with
    | ok => simp [enableForwarding, wiring, hswitch, hset]
    | error cause =>
        by_cases haccess : cause = .errno Errno.access <;>
          simp [enableForwarding, wiring, hswitch, hset, haccess]

variable [Kernel F κ]

theorem wiring_setUp (table : InterfaceTable) (channel : Channel F κ RecordingSysctl) :
    (setUp table channel).state.wiring =
      (channel.sysctl.tried channel.forwardingSwitch, channel.forwardingSwitch) := by
  rw [state_setUp]
  calc (Action.each registerInterface table.entries channel.readied).state.wiring
      = channel.readied.wiring := wiring_each_registerInterface _ _
    _ = _ := wiring_enableForwarding _

/-- The switch is tried when a channel is enabled, and only then. -/
theorem wiring_enable (table : InterfaceTable) (channel : Channel F κ RecordingSysctl) :
    (enable table channel).state.wiring =
      (if (enable table channel).answer.isOk then channel.sysctl.tried channel.forwardingSwitch
        else channel.sysctl, channel.forwardingSwitch) := by
  have hclaim := wiring_claim { channel with phase := .enabling }
  obtain ⟨-, hanswer, hstate⟩ | ⟨-, err, -, hanswer, hstate⟩ | ⟨-, -, hanswer, hstate⟩ :=
    enable_cases table channel
  · rw [hanswer, hstate]
    rfl
  · rw [hanswer, hstate]
    exact hclaim
  · have hsysctl : (claim { channel with phase := .enabling }).state.sysctl = channel.sysctl :=
      congrArg Prod.fst hclaim
    have hswitch : (claim { channel with phase := .enabling }).state.forwardingSwitch =
        channel.forwardingSwitch := congrArg Prod.snd hclaim
    rw [hanswer, hstate, wiring_setUp, hsysctl, hswitch]
    rfl

end Channel

namespace Manager

variable [Kernel .ipv4 κ₄] [Kernel .ipv6 κ₆]

theorem wiring_enableFamily [Kernel F κ] (interfaces : InterfaceTable)
    (channel : Channel F κ RecordingSysctl) :
    (enableFamily interfaces channel).state.wiring =
      (if (Channel.enable interfaces channel).answer.isOk then
          channel.sysctl.tried channel.forwardingSwitch
        else channel.sysctl, channel.forwardingSwitch) := by
  rw [state_enableFamily]
  exact Channel.wiring_enable interfaces channel

theorem wiring_applyEntry [Kernel F κ] (interfaces : InterfaceTable) (defaultTtl : UInt8)
    (entry : RouteEntry) (channel : Channel F κ τ) :
    (applyEntry interfaces defaultTtl entry channel).state.wiring = channel.wiring := by
  obtain hsame | ⟨route, -, hadd⟩ := state_applyEntry interfaces defaultTtl entry channel
  · rw [hsame]
  · rw [hadd]
    exact Channel.wiring_whenEnabled (Registry.add route) channel

theorem wiring_applyRoutes (manager : Manager κ₄ κ₆ τ) :
    (applyRoutes manager).state.ipv4.wiring = manager.ipv4.wiring ∧
      (applyRoutes manager).state.ipv6.wiring = manager.ipv6.wiring := by
  refine Action.state_each_of_forall
    (fun after : Manager κ₄ κ₆ τ => after.ipv4.wiring = manager.ipv4.wiring ∧
      after.ipv6.wiring = manager.ipv6.wiring) ?_ ⟨rfl, rfl⟩
  rintro entry - before ⟨hipv4, hipv6⟩
  rw [applyOne]
  split
  · exact ⟨(wiring_applyEntry _ _ entry before.ipv4).trans hipv4, hipv6⟩
  · exact ⟨hipv4, (wiring_applyEntry _ _ entry before.ipv6).trans hipv6⟩

theorem wiring_stop (manager : Manager κ₄ κ₆ τ) :
    (stop manager).state.ipv4.wiring = manager.ipv4.wiring ∧
      (stop manager).state.ipv6.wiring = manager.ipv6.wiring :=
  ⟨Channel.wiring_disable manager.ipv4, Channel.wiring_disable manager.ipv6⟩

def obtainsIPv6 (manager : Manager κ₄ κ₆ RecordingSysctl) : Bool :=
  manager.config.wants .ipv6 && (Channel.enable manager.interfaces manager.ipv6).answer.isOk

omit [Kernel .ipv6 κ₆] in
theorem wiring_enableIPv4 (manager : Manager κ₄ κ₆ RecordingSysctl)
    (hnone : manager.ipv4.forwardingSwitch = none) :
    (enableIPv4 manager).state.ipv4.wiring = manager.ipv4.wiring ∧
      (enableIPv4 manager).state.ipv6 = manager.ipv6 := by
  have henable := wiring_enableFamily manager.interfaces manager.ipv4
  rw [hnone, RecordingSysctl.tried_none, ite_self, ← hnone] at henable
  obtain ⟨-, -, hstate⟩ | ⟨-, err, -, -, hstate⟩ | ⟨-, interfaces, -, -, hstate⟩ :=
    enableWanted_cases .ipv4 (fun table => onIPv4 (enableFamily table)) manager
  · rw [enableIPv4, hstate]
    exact ⟨rfl, rfl⟩
  · rw [enableIPv4, hstate]
    exact ⟨henable, rfl⟩
  · rw [enableIPv4, hstate]
    exact ⟨henable, rfl⟩

omit [Kernel .ipv4 κ₄] in
theorem wiring_enableIPv6 (manager : Manager κ₄ κ₆ RecordingSysctl) :
    (enableIPv6 manager).state.ipv4 = manager.ipv4 ∧
      (enableIPv6 manager).state.ipv6.wiring =
        (if manager.obtainsIPv6 then manager.ipv6.sysctl.tried manager.ipv6.forwardingSwitch
          else manager.ipv6.sysctl, manager.ipv6.forwardingSwitch) := by
  have henable := wiring_enableFamily manager.interfaces manager.ipv6
  obtain ⟨hwants, -, hstate⟩ | ⟨hwants, err, -, -, hstate⟩ | ⟨hwants, interfaces, -, -, hstate⟩ :=
    enableWanted_cases .ipv6 (fun table => onIPv6 (enableFamily table)) manager
  · rw [enableIPv6, hstate, obtainsIPv6, hwants]
    exact ⟨rfl, rfl⟩
  · rw [enableIPv6, hstate, obtainsIPv6, hwants]
    exact ⟨rfl, henable⟩
  · rw [enableIPv6, hstate, obtainsIPv6, hwants]
    exact ⟨rfl, henable⟩

/-! ### Sessions -/

/-- The configuration that a start enables IPv6 by, if it gets that far and succeeds. -/
def startSession? (table : InterfaceTable) (manager : Manager κ₄ κ₆ RecordingSysctl) :
    Option Config :=
  let first := enableIPv4 { manager with interfaces := table }
  if first.answer.isOk && first.state.obtainsIPv6 then some first.state.config else none

theorem isSome_startSession? (table : InterfaceTable) (manager : Manager κ₄ κ₆ RecordingSysctl) :
    (manager.startSession? table).isSome =
      ((enableIPv4 { manager with interfaces := table }).answer.isOk &&
        (enableIPv4 { manager with interfaces := table }).state.obtainsIPv6) := by
  rw [startSession?]
  split <;> simp_all

/-- IPv4 has no switch and has written nothing, and IPv6 has this switch. -/
structure Wired (sysctl : RecordingSysctl) (switch : Option String)
    (manager : Manager κ₄ κ₆ RecordingSysctl) : Prop where
  ipv4 : manager.ipv4.wiring = (sysctl, none)
  ipv6 : manager.ipv6.forwardingSwitch = switch

variable {sysctl : RecordingSysctl} {switch : Option String}
  {manager after : Manager κ₄ κ₆ RecordingSysctl}

omit [Kernel .ipv4 κ₄] [Kernel .ipv6 κ₆] in
theorem Wired.of_wiring (hwired : Wired sysctl switch manager)
    (hsame : after.ipv4.wiring = manager.ipv4.wiring ∧ after.ipv6.wiring = manager.ipv6.wiring) :
    Wired sysctl switch after ∧ after.ipv6.sysctl = manager.ipv6.sysctl :=
  ⟨⟨hsame.1.trans hwired.ipv4, (congrArg Prod.snd hsame.2).trans hwired.ipv6⟩,
    congrArg Prod.fst hsame.2⟩

omit [Kernel .ipv4 κ₄] in
theorem Wired.enableIPv6 (hwired : Wired sysctl switch manager) :
    Wired sysctl switch (Manager.enableIPv6 manager).state ∧
      (Manager.enableIPv6 manager).state.ipv6.sysctl =
        if manager.obtainsIPv6 then manager.ipv6.sysctl.tried switch else manager.ipv6.sysctl := by
  obtain ⟨hipv4, hipv6⟩ := wiring_enableIPv6 manager
  rw [hwired.ipv6] at hipv6
  exact ⟨⟨hipv4 ▸ hwired.ipv4, congrArg Prod.snd hipv6⟩, congrArg Prod.fst hipv6⟩

theorem Wired.start (hwired : Wired sysctl switch manager) (table : InterfaceTable) :
    Wired sysctl switch (Manager.start table manager).state ∧
      (Manager.start table manager).state.ipv6.sysctl =
        if (manager.startSession? table).isSome then manager.ipv6.sysctl.tried switch
        else manager.ipv6.sysctl := by
  -- IPv4 has no switch to try, so the one that may be tried is that of IPv6
  obtain ⟨hipv4, hsame⟩ :=
    wiring_enableIPv4 { manager with interfaces := table } (congrArg Prod.snd hwired.ipv4)
  obtain ⟨hfirst, hsysctl⟩ := hwired.of_wiring ⟨hipv4, congrArg Channel.wiring hsame⟩
  obtain ⟨hsecond, hsysctl'⟩ := hfirst.enableIPv6
  rw [isSome_startSession?]
  obtain ⟨err, hanswer, -, hstate⟩ | ⟨hanswer, err, -, -, hstate⟩ | ⟨hanswer, -, -, hstate⟩ :=
    start_cases table manager rfl rfl
  · rw [hanswer, hstate]
    exact ⟨hfirst, hsysctl⟩
  · rw [hanswer, hstate, ← hsysctl]
    exact ⟨hsecond, hsysctl'⟩
  · obtain ⟨hthird, hsysctl''⟩ := hsecond.of_wiring (wiring_applyRoutes _)
    rw [hanswer, hstate, ← hsysctl]
    exact ⟨hthird, hsysctl''.trans hsysctl'⟩

/-! ### Runs -/

/-- The configuration held when IPv6 is enabled, if it is. -/
def Work.session? : Work Registry.Operation → Manager κ₄ κ₆ RecordingSysctl → Option Config
  | .start interfaces, manager => manager.startSession? interfaces
  | .reload config interfaces, manager =>
    startSession? interfaces { (Manager.stop manager).state with config }
  | _, _ => none

def obey (works : List (Work Registry.Operation)) :
    Action (Manager κ₄ κ₆ RecordingSysctl) (List Unit) :=
  Action.each Work.perform works

theorem Wired.perform (hwired : Wired sysctl switch manager) (work : Work Registry.Operation) :
    Wired sysctl switch (work.perform manager).state ∧
      (work.perform manager).state.ipv6.sysctl =
        if (work.session? manager).isSome then manager.ipv6.sysctl.tried switch
        else manager.ipv6.sysctl := by
  cases work with
  | start interfaces => exact hwired.start interfaces
  | stop => exact hwired.of_wiring (wiring_stop manager)
  | applyRoutes => exact hwired.of_wiring (wiring_applyRoutes manager)
  | ipv4 operation =>
      exact hwired.of_wiring ⟨Channel.wiring_whenEnabled operation.perform manager.ipv4, rfl⟩
  | ipv6 operation =>
      exact hwired.of_wiring ⟨rfl, Channel.wiring_whenEnabled operation.perform manager.ipv6⟩
  | reload config interfaces =>
      have hstopped : Wired sysctl switch { (Manager.stop manager).state with config } :=
        { (hwired.of_wiring (wiring_stop manager)).1 with }
      have hsysctl : (Manager.stop manager).state.ipv6.sysctl = manager.ipv6.sysctl :=
        congrArg Prod.fst (wiring_stop manager).2
      have hstate : ((Work.reload config interfaces).perform manager).state =
          (Manager.start interfaces { (Manager.stop manager).state with config }).state :=
        state_reload config interfaces manager
      rw [hstate, ← hsysctl]
      exact hstopped.start interfaces

theorem wired_obey (config : Config) (ipv4 : κ₄) (ipv6 : κ₆) (sysctl : RecordingSysctl)
    (works : List (Work Registry.Operation)) :
    Wired sysctl config.switch? (obey works (ofConfig config ipv4 ipv6 sysctl)).state :=
  Action.state_each_of_forall (Wired sysctl config.switch?)
    (fun work _ _ hbefore => (hbefore.perform work).1) ⟨rfl, rfl⟩

/-- **Which switch is turned on with IPv6:** the one that the manager was made with. So it is what
the configuration at hand asks for exactly if this has the same path as the first. -/
theorem writes_perform_iff (config : Config) (ipv4 : κ₄) (ipv6 : κ₆) (sysctl : RecordingSysctl)
    (works : List (Work Registry.Operation)) (work : Work Registry.Operation) :
    let manager := (obey works (ofConfig config ipv4 ipv6 sysctl)).state
    let after := (work.perform manager).state
    after.ipv4.sysctl = sysctl ∧
      after.ipv6.sysctl.writes = manager.ipv6.sysctl.writes ++
        (work.session? manager).elim [] (fun _ => writesOf config.switch?) ∧
      (after.ipv6.sysctl.writes = manager.ipv6.sysctl.writes ++
          (work.session? manager).elim [] (fun held => writesOf held.switch?) ↔
        ∀ held ∈ work.session? manager, held.switch? = config.switch?) := by
  intro manager after
  have hwired : Wired sysctl config.switch? manager := wired_obey config ipv4 ipv6 sysctl works
  obtain ⟨hafter, hsysctl⟩ := hwired.perform work
  have hwrites : after.ipv6.sysctl.writes = manager.ipv6.sysctl.writes ++
      (work.session? manager).elim [] (fun _ => writesOf config.switch?) := by
    rw [show after.ipv6.sysctl = _ from hsysctl]
    cases work.session? manager with
    | none => exact (List.append_nil _).symm
    | some held => rfl
  refine ⟨congrArg Prod.fst hafter.ipv4, hwrites, ?_⟩
  rw [hwrites, List.append_cancel_left_eq]
  cases work.session? manager with
  | none => simp
  | some held => simp [writesOf_inj, eq_comm]

def switchAt (path : String) : Config := { daemon := { forwardingSwitch := some path } }

/-- A reload with another path enables IPv6 by the path that the manager was made with. -/
theorem reload_keeps_switch :
    let manager := (obey [.start .basic]
      (ofConfig (switchAt "/a") ({} : SimulatedKernel .ipv4) ({} : SimulatedKernel .ipv6) {})).state
    let after := ((Work.reload (switchAt "/b") .basic).perform manager).state
    (Work.reload (switchAt "/b") .basic).session? manager = some (switchAt "/b") ∧
      after.config = switchAt "/b" ∧ (switchAt "/b").switch? = some "/b" ∧
      manager.ipv6.sysctl.writes = [("/a", true)] ∧
      after.ipv6.sysctl.writes = [("/a", true), ("/a", true)] := by
  decide +kernel

end Manager

end Multicast
