import Multicast.Manager
import Multicast.Proofs.Channel.Lifecycle

/-!
# What a manager does to its channels

A manager changes its channels through their operations alone. So whatever runs of a channel keep,
runs of a manager keep of each of its channels, and only what a manager does between the channels,
handing the interface table on and choosing what to add, needs statements of its own.
-/

namespace Multicast.Manager

open Multicast.Action

variable {F : Family} {τ α β : Type}

section Kernels

variable {κ κ₄ κ₆ : Type}

@[simp]
theorem answer_onIPv4 (action : Action (Channel .ipv4 κ₄ τ) α) (manager : Manager κ₄ κ₆ τ) :
    (onIPv4 action manager).answer = (action manager.ipv4).answer := rfl

@[simp]
theorem state_onIPv4 (action : Action (Channel .ipv4 κ₄ τ) α) (manager : Manager κ₄ κ₆ τ) :
    (onIPv4 action manager).state = { manager with ipv4 := (action manager.ipv4).state } := rfl

@[simp]
theorem answer_onIPv6 (action : Action (Channel .ipv6 κ₆ τ) α) (manager : Manager κ₄ κ₆ τ) :
    (onIPv6 action manager).answer = (action manager.ipv6).answer := rfl

@[simp]
theorem state_onIPv6 (action : Action (Channel .ipv6 κ₆ τ) α) (manager : Manager κ₄ κ₆ τ) :
    (onIPv6 action manager).state = { manager with ipv6 := (action manager.ipv6).state } := rfl

variable [Kernel F κ] [Sysctl τ]

/-- Only a fatal failure of the channel is one of the family; any other leaves the interfaces as
they are. -/
theorem answer_enableFamily (interfaces : InterfaceTable) (channel : Channel F κ τ) :
    (enableFamily interfaces channel).answer =
      match (Channel.enable interfaces channel).answer with
      | .ok annotated => .ok annotated
      | .error err => if err.isFatal then .error (.routing err) else .ok interfaces := by
  cases henable : (Channel.enable interfaces channel).answer with
  | ok annotated => simp [enableFamily, henable]
  | error err => cases hfatal : err.isFatal <;> simp [enableFamily, henable, hfatal]

theorem state_enableFamily (interfaces : InterfaceTable) (channel : Channel F κ τ) :
    (enableFamily interfaces channel).state = (Channel.enable interfaces channel).state := by
  cases henable : (Channel.enable interfaces channel).answer with
  | ok annotated => simp [enableFamily, henable]
  | error err => cases hfatal : err.isFatal <;> simp [enableFamily, henable, hfatal]

omit [Sysctl τ] in
theorem state_applyEntry (interfaces : InterfaceTable) (defaultTtl : UInt8) (entry : RouteEntry)
    (channel : Channel F κ τ) :
    (applyEntry interfaces defaultTtl entry channel).state = channel ∨
      ∃ route, entry.toRoute F interfaces defaultTtl = .ok route ∧
        (applyEntry interfaces defaultTtl entry channel).state =
          (Channel.add route channel).state := by
  cases henabled : channel.isEnabled with
  | false => exact .inl (by simp [applyEntry, henabled])
  | true =>
      cases hroute : entry.toRoute F interfaces defaultTtl with
      | error err => exact .inl (by simp [applyEntry, henabled, hroute])
      | ok route =>
          refine .inr ⟨route, rfl, ?_⟩
          cases hadd : (Channel.add route channel).answer <;>
            simp [applyEntry, henabled, hroute, hadd]

omit [Sysctl τ] in
theorem enableWanted_cases (F : Family)
    (enable : InterfaceTable → Action (Manager κ₄ κ₆ τ) (Except DaemonError InterfaceTable))
    (manager : Manager κ₄ κ₆ τ) :
    (manager.config.wants F = false ∧ (enableWanted F enable manager).answer = .ok () ∧
      (enableWanted F enable manager).state = manager) ∨
    (manager.config.wants F = true ∧ ∃ err,
      (enable manager.interfaces manager).answer = .error err ∧
        (enableWanted F enable manager).answer = .error err ∧
        (enableWanted F enable manager).state = (enable manager.interfaces manager).state) ∨
    (manager.config.wants F = true ∧ ∃ interfaces,
      (enable manager.interfaces manager).answer = .ok interfaces ∧
        (enableWanted F enable manager).answer = .ok () ∧
        (enableWanted F enable manager).state =
          { (enable manager.interfaces manager).state with interfaces }) := by
  cases hwants : manager.config.wants F with
  | false => exact .inl ⟨rfl, by simp [enableWanted, hwants], by simp [enableWanted, hwants]⟩
  | true =>
      cases henable : (enable manager.interfaces manager).answer with
      | error err =>
          exact .inr (.inl ⟨rfl, err, rfl, by simp [enableWanted, hwants, henable],
            by simp [enableWanted, hwants, henable]⟩)
      | ok interfaces =>
          exact .inr (.inr ⟨rfl, interfaces, rfl, by simp [enableWanted, hwants, henable],
            by simp [enableWanted, hwants, henable]⟩)

section Start

variable [Kernel .ipv4 κ₄] [Kernel .ipv6 κ₆]

def enableIPv4 : Action (Manager κ₄ κ₆ τ) (Except DaemonError Unit) :=
  enableWanted .ipv4 fun table => onIPv4 (enableFamily table)

def enableIPv6 : Action (Manager κ₄ κ₆ τ) (Except DaemonError Unit) :=
  enableWanted .ipv6 fun table => onIPv6 (enableFamily table)

theorem start_eq (table : InterfaceTable) :
    (start table : Action (Manager κ₄ κ₆ τ) (Except DaemonError Summary)) =
      Action.within (scope "start") (do
        Action.update fun manager => { manager with interfaces := table }
        match ← enableIPv4 with
        | .error err => pure (.error err)
        | .ok () =>
          match ← enableIPv6 with
          | .error err => pure (.error err)
          | .ok () =>
            let summary ← applyRoutes
            Action.log (routesApplied summary)
            pure (.ok summary)) := rfl

/-- A start ends with the first family that fails, or with the routes applied. -/
theorem start_cases (table : InterfaceTable) (manager : Manager κ₄ κ₆ τ)
    {first second : Outcome (Manager κ₄ κ₆ τ) (Except DaemonError Unit)}
    (hfirst : enableIPv4 { manager with interfaces := table } = first)
    (hsecond : enableIPv6 first.state = second) :
    (∃ err, first.answer = .error err ∧ (start table manager).answer = .error err ∧
      (start table manager).state = first.state) ∨
    (first.answer = .ok () ∧ ∃ err, second.answer = .error err ∧
      (start table manager).answer = .error err ∧ (start table manager).state = second.state) ∨
    (first.answer = .ok () ∧ second.answer = .ok () ∧
      (start table manager).answer = .ok (applyRoutes second.state).answer ∧
      (start table manager).state = (applyRoutes second.state).state) := by
  rw [start_eq]
  cases hone : first.answer with
  | error err => exact .inl ⟨err, rfl, by simp [hfirst, hone], by simp [hfirst, hone]⟩
  | ok =>
      cases htwo : second.answer with
      | error err =>
          exact .inr (.inl ⟨rfl, err, rfl, by simp [hfirst, hone, hsecond, htwo],
            by simp [hfirst, hone, hsecond, htwo]⟩)
      | ok =>
          exact .inr (.inr ⟨rfl, rfl, by simp [hfirst, hone, hsecond, htwo],
            by simp [hfirst, hone, hsecond, htwo]⟩)

theorem state_reload (config : Config) (table : InterfaceTable) (manager : Manager κ₄ κ₆ τ) :
    (reload config table manager).state =
      (start table { (stop manager).state with config }).state := rfl

end Start

end Kernels

/-! ### Runs over kernels in memory -/

abbrev Simulated (τ : Type) : Type :=
  Manager (SimulatedKernel .ipv4) (SimulatedKernel .ipv6) τ

/-- What is done with a manager, or by operations of some kind with one of its channels. -/
inductive Work (ω : Family → Type) where
  | start (interfaces : InterfaceTable)
  | reload (config : Config) (interfaces : InterfaceTable)
  | stop
  | applyRoutes
  | ipv4 (operation : ω .ipv4)
  | ipv6 (operation : ω .ipv6)

section Work

variable {ω : Family → Type} {κ₄ κ₆ : Type} [Kernel .ipv4 κ₄] [Kernel .ipv6 κ₆] [Sysctl τ]

def Work.performBy (ipv4 : ω .ipv4 → Action (Channel .ipv4 κ₄ τ) α)
    (ipv6 : ω .ipv6 → Action (Channel .ipv6 κ₆ τ) α) : Work ω → Action (Manager κ₄ κ₆ τ) Unit
  | .start interfaces => do
    let _ ← Manager.start interfaces
    pure ()
  | .reload config interfaces => do
    let _ ← Manager.reload config interfaces
    pure ()
  | .stop => Manager.stop
  | .applyRoutes => do
    let _ ← Manager.applyRoutes
    pure ()
  | .ipv4 operation => do
    let _ ← onIPv4 (ipv4 operation)
    pure ()
  | .ipv6 operation => do
    let _ ← onIPv6 (ipv6 operation)
    pure ()

def Work.perform : Work Registry.Operation → Action (Manager κ₄ κ₆ τ) Unit :=
  performBy (fun operation => Channel.whenEnabled operation.perform)
    fun operation => Channel.whenEnabled operation.perform

end Work

/-- A channel may be worked on behind its manager's back. -/
abbrev Operation := Work Channel.Operation

variable [Sysctl τ]

def Operation.perform : Operation → Action (Simulated τ) Unit :=
  Work.performBy Channel.Operation.perform Channel.Operation.perform

def run (operations : List Operation) : Action (Simulated τ) (List Unit) :=
  Action.each Operation.perform operations

/-- Each channel of the one manager is that of the other after some operations. -/
def Drives (before after : Simulated τ) : Prop :=
  Channel.Reaches before.ipv4 after.ipv4 ∧ Channel.Reaches before.ipv6 after.ipv6

theorem Drives.refl (manager : Simulated τ) : Drives manager manager := ⟨.refl _, .refl _⟩

theorem Drives.trans {before middle after : Simulated τ} (hfirst : Drives before middle)
    (hnext : Drives middle after) : Drives before after :=
  ⟨hfirst.1.trans hnext.1, hfirst.2.trans hnext.2⟩

theorem drives_onIPv4 {action : Action (Channel .ipv4 (SimulatedKernel .ipv4) τ) α}
    (hreaches : ∀ channel, Channel.Reaches channel (action channel).state)
    (manager : Simulated τ) : Drives manager (onIPv4 action manager).state :=
  ⟨hreaches manager.ipv4, .refl _⟩

theorem drives_onIPv6 {action : Action (Channel .ipv6 (SimulatedKernel .ipv6) τ) α}
    (hreaches : ∀ channel, Channel.Reaches channel (action channel).state)
    (manager : Simulated τ) : Drives manager (onIPv6 action manager).state :=
  ⟨.refl _, hreaches manager.ipv6⟩

theorem drives_bind {first : Action (Simulated τ) α} {next : α → Action (Simulated τ) β}
    (hfirst : ∀ manager, Drives manager (first manager).state)
    (hnext : ∀ answer manager, Drives manager (next answer manager).state)
    (manager : Simulated τ) : Drives manager ((first >>= next) manager).state :=
  (hfirst manager).trans (hnext _ _)

theorem drives_each {action : α → Action (Simulated τ) β}
    (hstep : ∀ x manager, Drives manager (action x manager).state) (xs : List α)
    (manager : Simulated τ) : Drives manager (Action.each action xs manager).state :=
  Action.state_each_of_forall (Drives manager) (fun x _ _ hbefore => hbefore.trans (hstep x _))
    (.refl manager)

theorem reaches_enableFamily (interfaces : InterfaceTable)
    (channel : Channel F (SimulatedKernel F) τ) :
    Channel.Reaches channel (enableFamily interfaces channel).state := by
  rw [state_enableFamily]
  exact Channel.reaches_perform (.enable interfaces) channel

theorem reaches_applyEntry (interfaces : InterfaceTable) (defaultTtl : UInt8) (entry : RouteEntry)
    (channel : Channel F (SimulatedKernel F) τ) :
    Channel.Reaches channel (applyEntry interfaces defaultTtl entry channel).state := by
  obtain hsame | ⟨route, -, hadd⟩ := state_applyEntry interfaces defaultTtl entry channel
  · rw [hsame]
    exact .refl channel
  · rw [hadd]
    exact Channel.reaches_perform (.add route) channel

theorem drives_applyOne (interfaces : InterfaceTable) (defaultTtl : UInt8) (entry : RouteEntry)
    (manager : Simulated τ) :
    Drives manager (applyOne interfaces defaultTtl entry manager).state := by
  unfold applyOne
  split
  · exact drives_onIPv4 (reaches_applyEntry _ _ entry) manager
  · exact drives_onIPv6 (reaches_applyEntry _ _ entry) manager

theorem drives_applyRoutes (manager : Simulated τ) :
    Drives manager (applyRoutes manager).state :=
  drives_each (drives_applyOne _ _) manager.config.routes manager

theorem drives_enableWanted (F : Family)
    {enable : InterfaceTable → Action (Simulated τ) (Except DaemonError InterfaceTable)}
    (hdrives : ∀ table manager, Drives manager (enable table manager).state)
    (manager : Simulated τ) : Drives manager (enableWanted F enable manager).state := by
  have hstep := hdrives manager.interfaces manager
  obtain ⟨-, -, hstate⟩ | ⟨-, err, -, -, hstate⟩ | ⟨-, interfaces, -, -, hstate⟩ :=
    enableWanted_cases F enable manager
  · rw [hstate]
    exact .refl manager
  · rw [hstate]
    exact hstep
  · rw [hstate]
    exact hstep

theorem drives_enableIPv4 (manager : Simulated τ) : Drives manager (enableIPv4 manager).state :=
  drives_enableWanted .ipv4 (fun table => drives_onIPv4 (reaches_enableFamily table)) manager

theorem drives_enableIPv6 (manager : Simulated τ) : Drives manager (enableIPv6 manager).state :=
  drives_enableWanted .ipv6 (fun table => drives_onIPv6 (reaches_enableFamily table)) manager

theorem drives_start (table : InterfaceTable) (manager : Simulated τ) :
    Drives manager (start table manager).state := by
  have hfirst := drives_enableIPv4 { manager with interfaces := table }
  have hsecond := hfirst.trans (drives_enableIPv6 _)
  obtain ⟨err, -, -, hstate⟩ | ⟨-, err, -, -, hstate⟩ | ⟨-, -, -, hstate⟩ :=
    start_cases table manager rfl rfl
  · rw [hstate]
    exact hfirst
  · rw [hstate]
    exact hsecond
  · rw [hstate]
    exact hsecond.trans (drives_applyRoutes _)

theorem drives_stop (manager : Simulated τ) : Drives manager (stop manager).state :=
  drives_bind (drives_onIPv4 fun channel => Channel.reaches_perform .disable channel)
    (fun _ => drives_onIPv6 fun channel => Channel.reaches_perform .disable channel) manager

theorem drives_reload (config : Config) (table : InterfaceTable) (manager : Simulated τ) :
    Drives manager (reload config table manager).state :=
  (drives_stop manager).trans (drives_start table { (stop manager).state with config })

theorem drives_perform (operation : Operation) (manager : Simulated τ) :
    Drives manager (operation.perform manager).state := by
  cases operation with
  | start interfaces => exact drives_start interfaces manager
  | reload config interfaces => exact drives_reload config interfaces manager
  | stop => exact drives_stop manager
  | applyRoutes => exact drives_applyRoutes manager
  | ipv4 operation =>
      exact drives_onIPv4 (fun channel => Channel.reaches_perform operation channel) manager
  | ipv6 operation =>
      exact drives_onIPv6 (fun channel => Channel.reaches_perform operation channel) manager

theorem drives_run (operations : List Operation) (manager : Simulated τ) :
    Drives manager (run operations manager).state :=
  drives_each drives_perform operations manager

/-- Both channels are new, each with its own faults, switches and path. -/
def New (manager : Simulated τ) : Prop :=
  (∃ faults sysctl path, manager.ipv4 = Channel.fresh faults sysctl path) ∧
    ∃ faults sysctl path, manager.ipv6 = Channel.fresh faults sysctl path

def Reachable (manager : Simulated τ) : Prop :=
  ∃ first : Simulated τ, first.New ∧ ∃ operations, (run operations first).state = manager

theorem Reachable.perform {manager : Simulated τ} (hreachable : manager.Reachable)
    (operation : Operation) : (operation.perform manager).state.Reachable := by
  obtain ⟨first, hnew, operations, rfl⟩ := hreachable
  exact ⟨first, hnew, operations ++ [operation],
    (Action.each_append Operation.perform operations [operation] first).2⟩

theorem Reachable.lifecycle {manager : Simulated τ} (hreachable : manager.Reachable) :
    manager.ipv4.Lifecycle ∧ manager.ipv6.Lifecycle := by
  obtain ⟨first, ⟨⟨faults, sysctl, path, hipv4⟩, faults', sysctl', path', hipv6⟩, operations,
    rfl⟩ := hreachable
  obtain ⟨hreaches, hreaches'⟩ := drives_run operations first
  rw [hipv4] at hreaches
  rw [hipv6] at hreaches'
  exact ⟨(Channel.lifecycle_fresh faults sysctl path).reaches hreaches,
    (Channel.lifecycle_fresh faults' sysctl' path').reaches hreaches'⟩

end Multicast.Manager
