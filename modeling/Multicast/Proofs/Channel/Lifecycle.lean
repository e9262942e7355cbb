import Multicast.Proofs.Cache
import Multicast.Proofs.Channel.Operation

/-!
# The life of a channel

A channel on a kernel of its own is enabled exactly while it holds a socket, which is exactly while
the kernel has one open; and while it holds none, nothing is bound, kept, cached or registered. Each
operation restores all of this together, the failing ones too.
-/

namespace Multicast.Channel

open Multicast.Action SimulatedKernel

variable {F : Family} {τ : Type}

def fresh (faults : KernelFaults) (sysctl : τ) (forwardingSwitch : Option String) :
    Channel F (SimulatedKernel F) τ :=
  { kernel := { faults }, sysctl, forwardingSwitch }

inductive Operation (F : Family) where
  | enable (table : InterfaceTable)
  | disable
  | add (route : Route F)
  | remove (route : Route F)
  | resolve (flow : Flow F)
  | inject (faults : KernelFaults)

def inject (faults : KernelFaults) (channel : Channel F (SimulatedKernel F) τ) :
    Channel F (SimulatedKernel F) τ :=
  { channel with kernel := { channel.kernel with faults } }

variable [Sysctl τ]

def Operation.perform :
    Operation F → Action (Channel F (SimulatedKernel F) τ) (Except RoutingError Unit)
  | enable table => do
    let result ← Channel.enable table
    pure (result.map fun _ => ())
  | disable => do
    Channel.disable
    pure (.ok ())
  | add route => Channel.add route
  | remove route => Channel.remove route
  | resolve flow => Channel.resolve flow
  | inject faults => do
    Action.update (Channel.inject faults)
    pure (.ok ())

omit [Sysctl τ] in
theorem frame_each_registerInterface (entries : List Interface)
    (channel : Channel F (SimulatedKernel F) τ) :
    let after := (Action.each registerInterface entries channel).state.kernel
    after.cache = channel.kernel.cache ∧ after.openSockets = channel.kernel.openSockets ∧
      after.faults = channel.kernel.faults := by
  refine Action.state_each_of_forall
    (fun after : Channel F (SimulatedKernel F) τ =>
      after.kernel.cache = channel.kernel.cache ∧
        after.kernel.openSockets = channel.kernel.openSockets ∧
        after.kernel.faults = channel.kernel.faults) ?_ ⟨rfl, rfl, rfl⟩
  rintro iface - before hbefore
  obtain hslots | ⟨slot, annotated, hkernel⟩ := state_registerInterface iface before
  · rw [hslots]
    exact hbefore
  · rw [hkernel]
    obtain ⟨hcache, hsockets, hfaults⟩ := frame_addInterface slot annotated before.kernel
    exact ⟨hcache.trans hbefore.1, hsockets.trans hbefore.2.1, hfaults.trans hbefore.2.2⟩

theorem frame_setUp (table : InterfaceTable) (channel : Channel F (SimulatedKernel F) τ) :
    let after := (setUp table channel).state.kernel
    after.cache = channel.kernel.cache ∧ after.openSockets = channel.kernel.openSockets ∧
      after.faults = channel.kernel.faults := by
  rw [state_setUp]
  have hframe := frame_each_registerInterface table.entries channel.readied
  rwa [show channel.readied.kernel = channel.kernel by rw [readied_eq]] at hframe

/-! ### Claiming -/

omit [Sysctl τ] in
theorem claim_cases_simulated (channel : Channel F (SimulatedKernel F) τ) :
    (∃ errno, channel.kernel.faults.openSocket = some errno ∧
      (claim channel).answer = .error (openFailure F (.errno errno)) ∧
      (claim channel).state = { channel with kernel := channel.kernel.record .openSocket }) ∨
    (∃ errno, channel.kernel.faults.openSocket = none ∧ channel.kernel.faults.init = some errno ∧
      (claim channel).answer = .error (claimFailure F (.errno errno)) ∧
      (claim channel).state = { channel with
        kernel := { channel.kernel with
          calls := channel.kernel.calls ++ [.openSocket, .init, .close]
          cache := []
          registered := [] } }) ∨
    (channel.kernel.faults.openSocket = none ∧ channel.kernel.faults.init = none ∧
      (claim channel).answer = .ok () ∧
      (claim channel).state = { channel with
        kernel := { channel.kernel with
          calls := channel.kernel.calls ++ [.openSocket, .init]
          openSockets := channel.kernel.openSockets + 1 } }) := by
  have hcases := Channel.claim_cases channel
  cases hopen : channel.kernel.faults.openSocket with
  | some errno =>
      simp only [openSocket_of_some hopen, reduceCtorEq, false_and, exists_false,
        or_false] at hcases
      obtain ⟨cause, hcause, hanswer, hstate⟩ := hcases
      cases hcause
      exact .inl ⟨errno, rfl, hanswer, hstate⟩
  | none =>
      simp only [openSocket_of_none hopen, claim_eq, reduceCtorEq, false_and, exists_false,
        false_or, true_and] at hcases
      obtain ⟨cause, hcause, hanswer, hstate⟩ | ⟨hok, hanswer, hstate⟩ := hcases
      · cases hinit : channel.kernel.faults.init with
        | none => simp [record, hinit, succeedUnless] at hcause
        | some errno =>
            obtain rfl : OsError.errno errno = cause := by
              simpa [record, hinit, succeedUnless] using hcause
            refine .inr (.inl ⟨errno, rfl, rfl, hanswer, ?_⟩)
            rw [hstate, close_eq]
            simp [record]
      · cases hinit : channel.kernel.faults.init with
        | some errno => simp [record, hinit, succeedUnless] at hok
        | none =>
            refine .inr (.inr ⟨rfl, rfl, hanswer, ?_⟩)
            rw [hstate]
            simp [record]

omit [Sysctl τ] in
def claimed (channel : Channel F (SimulatedKernel F) τ) : Channel F (SimulatedKernel F) τ :=
  { channel with
    phase := .enabling
    kernel := { channel.kernel with
      calls := channel.kernel.calls ++ [.openSocket, .init]
      openSockets := channel.kernel.openSockets + 1 } }

theorem enable_cases_simulated (table : InterfaceTable)
    (channel : Channel F (SimulatedKernel F) τ) :
    (channel.phase = .enabled ∧
      (enable table channel).answer = .error (.alreadyEnabled F.name) ∧
      (enable table channel).state = channel) ∨
    (channel.phase ≠ .enabled ∧ ∃ errno, channel.kernel.faults.openSocket = some errno ∧
      (enable table channel).answer = .error (openFailure F (.errno errno)) ∧
      (enable table channel).state =
        { channel with phase := .disabled, kernel := channel.kernel.record .openSocket }) ∨
    (channel.phase ≠ .enabled ∧ ∃ errno, channel.kernel.faults.openSocket = none ∧
      channel.kernel.faults.init = some errno ∧
      (enable table channel).answer = .error (claimFailure F (.errno errno)) ∧
      (enable table channel).state =
        { channel with
          phase := .disabled
          kernel := { channel.kernel with
            calls := channel.kernel.calls ++ [.openSocket, .init, .close]
            cache := []
            registered := [] } }) ∨
    (channel.phase ≠ .enabled ∧ channel.kernel.faults.openSocket = none ∧
      channel.kernel.faults.init = none ∧
      (enable table channel).answer = .ok (setUp table channel.claimed).answer ∧
      (enable table channel).state = (setUp table channel.claimed).state) := by
  have hclaim := claim_cases_simulated { channel with phase := .enabling }
  obtain ⟨hphase, hanswer, hstate⟩ | ⟨hphase, err, herr, hanswer, hstate⟩ |
    ⟨hphase, hok, hanswer, hstate⟩ := Channel.enable_cases table channel
  · exact .inl ⟨hphase, hanswer, hstate⟩
  · obtain ⟨errno, hopen, hfailed, hafter⟩ | ⟨errno, hopen, hinit, hfailed, hafter⟩ |
      ⟨-, -, hdone, -⟩ := hclaim
    · rw [herr, Except.error.injEq] at hfailed
      rw [hfailed] at hanswer
      rw [hafter] at hstate
      exact .inr (.inl ⟨hphase, errno, hopen, hanswer, hstate⟩)
    · rw [herr, Except.error.injEq] at hfailed
      rw [hfailed] at hanswer
      rw [hafter] at hstate
      exact .inr (.inr (.inl ⟨hphase, errno, hopen, hinit, hanswer, hstate⟩))
    · rw [herr] at hdone
      cases hdone
  · obtain ⟨errno, -, hfailed, -⟩ | ⟨errno, -, -, hfailed, -⟩ | ⟨hopen, hinit, -, hafter⟩ := hclaim
    · rw [hok] at hfailed
      cases hfailed
    · rw [hok] at hfailed
      cases hfailed
    · rw [hafter] at hanswer hstate
      exact .inr (.inr (.inr ⟨hphase, hopen, hinit, hanswer, hstate⟩))

theorem isOk_enable (table : InterfaceTable) (channel : Channel F (SimulatedKernel F) τ) :
    (enable table channel).answer.isOk = true ↔
      channel.phase ≠ .enabled ∧ channel.kernel.faults.openSocket = none ∧
        channel.kernel.faults.init = none := by
  obtain ⟨hphase, hanswer, -⟩ | ⟨-, errno, hopen, hanswer, -⟩ | ⟨-, errno, -, hinit, hanswer, -⟩ |
    ⟨hphase, hopen, hinit, hanswer, -⟩ := enable_cases_simulated table channel
  · simp [hanswer, hphase, Except.toBool]
  · simp [hanswer, hopen, Except.toBool]
  · simp [hanswer, hinit, Except.toBool]
  · simp [hanswer, hphase, hopen, hinit, Except.toBool]

theorem faults_enable (table : InterfaceTable) (channel : Channel F (SimulatedKernel F) τ) :
    (enable table channel).state.kernel.faults = channel.kernel.faults := by
  obtain ⟨-, -, hstate⟩ | ⟨-, errno, -, -, hstate⟩ | ⟨-, errno, -, -, -, hstate⟩ |
    ⟨-, -, -, -, hstate⟩ := enable_cases_simulated table channel
  · rw [hstate]
  · rw [hstate]
    rfl
  · rw [hstate]
  · rw [hstate]
    exact (frame_setUp table channel.claimed).2.2

omit [Sysctl τ] in
theorem faults_disable (channel : Channel F (SimulatedKernel F) τ) :
    (disable channel).state.kernel.faults = channel.kernel.faults := by
  rw [state_disable]
  split <;> rfl

omit [Sysctl τ] in
theorem calls_disable (channel : Channel F (SimulatedKernel F) τ) :
    (Channel.disable channel).state.kernel.calls =
      channel.kernel.calls ++ if channel.holdsSocket then [.done, .close] else [] := by
  rw [state_disable]
  split
  · simp [close_eq, state_release, record]
  · simp

/-! ### The invariant -/

/-- Nothing is open, bound, kept, cached or registered. -/
structure Idle (channel : Channel F (SimulatedKernel F) τ) : Prop where
  holdsSocket : channel.holdsSocket = false
  slots : channel.slots = .empty
  registry : channel.registry = .empty
  openSockets : channel.kernel.openSockets = 0
  cache : channel.kernel.cache = []
  registered : channel.kernel.registered = []

structure Lifecycle (channel : Channel F (SimulatedKernel F) τ) : Prop where
  phase_ne_enabling : channel.phase ≠ .enabling
  phase_eq_enabled_iff : channel.phase = .enabled ↔ channel.holdsSocket = true
  openSockets : channel.holdsSocket = true → channel.kernel.openSockets = 1
  idle : channel.holdsSocket = false → channel.Idle

variable {channel : Channel F (SimulatedKernel F) τ}

omit [Sysctl τ] in
theorem Idle.lifecycle (hidle : channel.Idle) (hphase : channel.phase = .disabled) :
    channel.Lifecycle where
  phase_ne_enabling := by simp [hphase]
  phase_eq_enabled_iff := by simp [hphase, hidle.holdsSocket]
  openSockets := by simp [hidle.holdsSocket]
  idle := fun _ => hidle

omit [Sysctl τ] in
theorem idle_fresh (faults : KernelFaults) (sysctl : τ) (forwardingSwitch : Option String) :
    (fresh faults sysctl forwardingSwitch : Channel F (SimulatedKernel F) τ).Idle := by
  constructor <;> rfl

omit [Sysctl τ] in
theorem lifecycle_fresh (faults : KernelFaults) (sysctl : τ) (forwardingSwitch : Option String) :
    (fresh faults sysctl forwardingSwitch : Channel F (SimulatedKernel F) τ).Lifecycle :=
  (idle_fresh faults sysctl forwardingSwitch).lifecycle rfl

omit [Sysctl τ] in
theorem Lifecycle.idle_of_ne (hlife : channel.Lifecycle) (hphase : channel.phase ≠ .enabled) :
    channel.Idle := by
  refine hlife.idle ?_
  rw [← Bool.not_eq_true, ← hlife.phase_eq_enabled_iff]
  exact hphase

/-- An enabled channel refuses to be enabled again; a claim that fails leaves the channel disabled
and idle; a claim that goes through is followed by setting up, on a kernel that holds nothing. -/
theorem Lifecycle.enable_cases (hlife : channel.Lifecycle) (table : InterfaceTable) :
    (channel.phase = .enabled ∧ (∃ err, (Channel.enable table channel).answer = .error err) ∧
      (Channel.enable table channel).state = channel) ∨
    (channel.phase ≠ .enabled ∧ (∃ err, (Channel.enable table channel).answer = .error err) ∧
      (Channel.enable table channel).state.Idle ∧
      (Channel.enable table channel).state.phase = .disabled) ∨
    (channel.phase ≠ .enabled ∧ ∃ claimed : Channel F (SimulatedKernel F) τ,
      claimed.kernel.openSockets = 1 ∧ claimed.kernel.cache = [] ∧
        claimed.kernel.registered = [] ∧
        (Channel.enable table channel).answer = .ok (setUp table claimed).answer ∧
        (Channel.enable table channel).state = (setUp table claimed).state) := by
  obtain ⟨hphase, hanswer, hstate⟩ | ⟨hphase, errno, -, hanswer, hstate⟩ |
    ⟨hphase, errno, -, -, hanswer, hstate⟩ | ⟨hphase, -, -, hanswer, hstate⟩ :=
      enable_cases_simulated table channel
  · exact .inl ⟨hphase, ⟨_, hanswer⟩, hstate⟩
  · have hidle := hlife.idle_of_ne hphase
    refine .inr (.inl ⟨hphase, ⟨_, hanswer⟩, ?_, by rw [hstate]⟩)
    rw [hstate]
    exact { hidle with }
  · have hidle := hlife.idle_of_ne hphase
    refine .inr (.inl ⟨hphase, ⟨_, hanswer⟩, ?_, by rw [hstate]⟩)
    rw [hstate]
    exact { hidle with cache := rfl, registered := rfl }
  · have hidle := hlife.idle_of_ne hphase
    refine .inr (.inr ⟨hphase, channel.claimed, ?_, hidle.cache, hidle.registered, hanswer, hstate⟩)
    simp [claimed, hidle.openSockets]

theorem Lifecycle.enable (hlife : channel.Lifecycle) (table : InterfaceTable) :
    (Channel.enable table channel).state.Lifecycle := by
  obtain ⟨-, -, hstate⟩ | ⟨-, -, hidle, hdisabled⟩ | ⟨-, claimed, hsockets, -, -, -, hstate⟩ :=
    hlife.enable_cases table
  · rwa [hstate]
  · exact hidle.lifecycle hdisabled
  · rw [hstate]
    have hframe := (frame_setUp table claimed).2.1
    rw [state_setUp] at hframe ⊢
    exact ⟨by simp, by simp, fun _ => hframe.trans hsockets, by simp⟩

omit [Sysctl τ] in
theorem Lifecycle.disable (hlife : channel.Lifecycle) :
    (Channel.disable channel).state.Lifecycle ∧ (Channel.disable channel).state.Idle ∧
      (Channel.disable channel).state.phase = .disabled := by
  rw [state_disable]
  by_cases hholds : channel.holdsSocket = true
  · have hsockets := hlife.openSockets hholds
    have hidle : Idle { channel with
        kernel := Kernel.close (Kernel.release channel.kernel).2
        registry := .empty
        slots := .empty
        phase := .disabled
        holdsSocket := false } :=
      ⟨rfl, rfl, rfl, by simp [close_eq, state_release, record, hsockets], rfl, rfl⟩
    rw [if_pos hholds]
    exact ⟨hidle.lifecycle rfl, hidle, rfl⟩
  · have hidle : Idle { channel with phase := .disabled } :=
      { hlife.idle (by simpa using hholds) with }
    rw [if_neg hholds]
    exact ⟨hidle.lifecycle rfl, hidle, rfl⟩

omit [Sysctl τ] in
theorem Lifecycle.routed (hlife : channel.Lifecycle) (hholds : channel.holdsSocket = true)
    (operation : Registry.Operation F) : (channel.routed operation).Lifecycle where
  phase_ne_enabling := hlife.phase_ne_enabling
  phase_eq_enabled_iff := hlife.phase_eq_enabled_iff
  openSockets := fun _ =>
    (frame_foldl_apply (operation.calls channel.registry) channel.kernel).2.1.trans
      (hlife.openSockets hholds)
  idle := fun hnot => by simp [Channel.routed, hholds] at hnot

omit [Sysctl τ] in
theorem Lifecycle.whenEnabled (hlife : channel.Lifecycle) (operation : Registry.Operation F) :
    (Channel.whenEnabled operation.perform channel).state.Lifecycle := by
  rw [state_whenEnabled]
  split
  · exact hlife.routed ‹_› operation
  · exact hlife

omit [Sysctl τ] in
theorem Lifecycle.inject (hlife : channel.Lifecycle) (faults : KernelFaults) :
    (channel.inject faults).Lifecycle :=
  { hlife with idle := fun hholds => { hlife.idle hholds with } }

theorem Lifecycle.perform (hlife : channel.Lifecycle) (operation : Operation F) :
    (operation.perform channel).state.Lifecycle := by
  cases operation with
  | enable table => exact hlife.enable table
  | disable => exact hlife.disable.1
  | add route => exact hlife.whenEnabled (.add route)
  | remove route => exact hlife.whenEnabled (.remove route)
  | resolve flow => exact hlife.whenEnabled (.resolve flow)
  | inject faults => exact hlife.inject faults

/-! ### Runs -/

structure Step (F : Family) where
  operation : Operation F
  answer : Except RoutingError Unit

def run (operations : List (Operation F)) :
    Action (Channel F (SimulatedKernel F) τ) (List (Step F)) :=
  Action.each
    (fun operation => do
      let answer ← operation.perform
      pure ⟨operation, answer⟩)
    operations

theorem run_append_singleton (operations : List (Operation F)) (operation : Operation F)
    (channel : Channel F (SimulatedKernel F) τ) :
    (run (operations ++ [operation]) channel).answer =
        (run operations channel).answer ++
          [⟨operation, (operation.perform (run operations channel).state).answer⟩] ∧
      (run (operations ++ [operation]) channel).state =
        (operation.perform (run operations channel).state).state := by
  unfold run
  obtain ⟨hanswer, hstate⟩ := Action.each_append
    (fun operation : Operation F => do
      let answer ← operation.perform
      pure (⟨operation, answer⟩ : Step F)) operations [operation] channel
  rw [hanswer, hstate]
  exact ⟨rfl, rfl⟩

def Reaches (before after : Channel F (SimulatedKernel F) τ) : Prop :=
  ∃ operations, (run operations before).state = after

theorem Reaches.refl (channel : Channel F (SimulatedKernel F) τ) : Reaches channel channel :=
  ⟨[], rfl⟩

theorem Reaches.trans {before middle after : Channel F (SimulatedKernel F) τ}
    (hfirst : Reaches before middle) (hnext : Reaches middle after) : Reaches before after := by
  obtain ⟨operations, rfl⟩ := hfirst
  obtain ⟨more, rfl⟩ := hnext
  exact ⟨operations ++ more, (Action.each_append _ operations more before).2⟩

theorem reaches_perform (operation : Operation F) (channel : Channel F (SimulatedKernel F) τ) :
    Reaches channel (operation.perform channel).state :=
  ⟨[operation], rfl⟩

theorem Lifecycle.reaches (hlife : channel.Lifecycle) {after : Channel F (SimulatedKernel F) τ}
    (hreaches : Reaches channel after) : after.Lifecycle := by
  obtain ⟨operations, rfl⟩ := hreaches
  unfold run
  refine Action.state_each_of_forall Lifecycle ?_ hlife
  exact fun operation _ before hbefore => hbefore.perform operation

def Reachable (channel : Channel F (SimulatedKernel F) τ) : Prop :=
  ∃ faults sysctl forwardingSwitch, Reaches (fresh faults sysctl forwardingSwitch) channel

theorem Reachable.lifecycle (hreachable : channel.Reachable) : channel.Lifecycle := by
  obtain ⟨faults, sysctl, forwardingSwitch, hreaches⟩ := hreachable
  exact (lifecycle_fresh faults sysctl forwardingSwitch).reaches hreaches

theorem lifecycle_run (operations : List (Operation F)) (faults : KernelFaults) (sysctl : τ)
    (forwardingSwitch : Option String) :
    (run operations (fresh faults sysctl forwardingSwitch)).state.Lifecycle :=
  Reachable.lifecycle ⟨faults, sysctl, forwardingSwitch, operations, rfl⟩

/-- **A channel is enabled or idle:** between operations it holds the one open socket of its kernel,
or nothing is bound, kept, cached or registered and routes are refused without a call. -/
theorem enabled_or_idle (operations : List (Operation F)) (faults : KernelFaults) (sysctl : τ)
    (forwardingSwitch : Option String) :
    let channel := (run operations (fresh faults sysctl forwardingSwitch)).state
    (channel.phase = .disabled ∨ channel.phase = .enabled) ∧
      (channel.phase = .enabled ↔ channel.holdsSocket = true) ∧
      (channel.holdsSocket = true ↔ channel.kernel.openSockets = 1) ∧
      (channel.holdsSocket = false ↔ channel.kernel.openSockets = 0) ∧
      (channel.phase = .disabled →
        channel.slots = .empty ∧ channel.registry = .empty ∧ channel.kernel.cache = [] ∧
          channel.kernel.registered = [] ∧
          (∀ route, add route channel = ⟨.error (.notEnabled F.name), channel, []⟩) ∧
          (∀ route, remove route channel = ⟨.error (.notEnabled F.name), channel, []⟩) ∧
          ∀ flow, resolve flow channel = ⟨.error (.notEnabled F.name), channel, []⟩) := by
  intro channel
  have hlife : channel.Lifecycle := lifecycle_run operations faults sysctl forwardingSwitch
  have hphase : channel.phase = .disabled ∨ channel.phase = .enabled := by
    cases hcase : channel.phase with
    | disabled => exact .inl rfl
    | enabling => exact absurd hcase hlife.phase_ne_enabling
    | enabled => exact .inr rfl
  have hclosed : channel.holdsSocket = false → channel.kernel.openSockets = 0 :=
    fun hholds => (hlife.idle hholds).openSockets
  refine ⟨hphase, hlife.phase_eq_enabled_iff, ?_, ?_, ?_⟩
  · refine ⟨hlife.openSockets, fun hone => ?_⟩
    by_contra hholds
    have hzero := hclosed (by simpa using hholds)
    omega
  · refine ⟨hclosed, fun hzero => ?_⟩
    by_contra hholds
    have hone := hlife.openSockets (by simpa using hholds)
    omega
  · intro hdisabled
    have hidle := hlife.idle_of_ne (by simp [hdisabled])
    refine ⟨hidle.slots, hidle.registry, hidle.cache, hidle.registered, ?_, ?_, ?_⟩
    · exact fun route => whenEnabled_of_closed _ hidle.holdsSocket
    · exact fun route => whenEnabled_of_closed _ hidle.holdsSocket
    · exact fun flow => whenEnabled_of_closed _ hidle.holdsSocket

end Multicast.Channel
