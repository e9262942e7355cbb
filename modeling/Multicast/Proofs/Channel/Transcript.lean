import Mathlib.Data.List.Chain
import Multicast.Proofs.Channel.Registration

/-!
# What a kernel is told

The calls that a channel makes fall into sessions. A session is over when the socket cannot be
opened, when the claim is refused and the socket closed again, or when the claim is given up and the
socket closed; only an enabled channel has one that is not over. Within a session interfaces come
before routes, and the slots tried for them leave no gap, since a slot is tried again until an
interface keeps it.
-/

namespace Multicast

variable {F : Family} {τ : Type}

namespace SimulatedKernel

/-- Slots from a number on, of which each is the one before it or the next. -/
structure Climbs (start : Nat) (slots : List SlotIndex) : Prop where
  head : ∀ slot ∈ slots.head?, slot.toNat = start
  step : slots.IsChain fun slot next => next.toNat = slot.toNat ∨ next.toNat = slot.toNat + 1

theorem climbs_nil (start : Nat) : Climbs start [] := ⟨by simp, .nil⟩

theorem Climbs.cons {start : Nat} {slots : List SlotIndex} (hlt : start < slotCount)
    (hclimbs : Climbs start slots ∨ Climbs (start + 1) slots) :
    Climbs start (UInt16.ofNat start :: slots) := by
  have hstart : (UInt16.ofNat start).toNat = start := toNat_slot hlt
  constructor
  · intro slot hslot
    have hsame : UInt16.ofNat start = slot := by simpa using hslot
    rw [← hsame, hstart]
  · rw [List.isChain_cons, hstart]
    rcases hclimbs with hagain | hnext
    · exact ⟨fun slot hslot => .inl (hagain.head slot hslot), hagain.step⟩
    · exact ⟨fun slot hslot => .inr (hnext.head slot hslot), hnext.step⟩

/-- What a claimed socket was used for: interfaces were registered, then routes added and
deleted. -/
structure Usage (F : Family) where
  attempts : List (SlotIndex × Binding)
  climbs : Climbs 0 (attempts.map Prod.fst)
  routes : List (RouteCall F)

/-- A session that is over. -/
inductive Session (F : Family) where
  | unopened
  | unclaimed
  | served (usage : Usage F)

def attemptCall (attempt : SlotIndex × Binding) : KernelCall F :=
  .addInterface attempt.1 attempt.2.ifindex attempt.2.name

def routeCall : RouteCall F → KernelCall F
  | .add route => .addRoute route
  | .del route => .delRoute route

namespace Usage

def calls (usage : Usage F) : List (KernelCall F) :=
  [.openSocket, .init] ++ usage.attempts.map attemptCall ++ usage.routes.map routeCall

end Usage

namespace Session

def calls : Session F → List (KernelCall F)
  | unopened => [.openSocket]
  | unclaimed => [.openSocket, .init, .close]
  | served usage => usage.calls ++ [.done, .close]

end Session

/-! ### Telling whether the last session is over -/

theorem count_attempts {call : KernelCall F} (hcall : call = .init ∨ call = .close)
    (attempts : List (SlotIndex × Binding)) :
    (attempts.map (attemptCall (F := F))).count call = 0 := by
  rw [List.count_eq_zero]
  intro hmem
  obtain ⟨attempt, -, rfl⟩ := List.mem_map.mp hmem
  simp [attemptCall] at hcall

theorem count_routes {call : KernelCall F} (hcall : call = .init ∨ call = .close)
    (routes : List (RouteCall F)) : (routes.map routeCall).count call = 0 := by
  rw [List.count_eq_zero]
  intro hmem
  obtain ⟨route, -, rfl⟩ := List.mem_map.mp hmem
  cases route <;> simp [routeCall] at hcall

theorem Usage.count_init (usage : Usage F) : usage.calls.count .init = 1 := by
  rw [Usage.calls, List.count_append, List.count_append, count_attempts (.inl rfl),
    count_routes (.inl rfl)]
  rfl

theorem Usage.count_close (usage : Usage F) : usage.calls.count .close = 0 := by
  rw [Usage.calls, List.count_append, List.count_append, count_attempts (.inr rfl),
    count_routes (.inr rfl)]
  rfl

theorem Session.count_init_eq (session : Session F) :
    session.calls.count .init = session.calls.count .close := by
  cases session with
  | unopened => rfl
  | unclaimed => rfl
  | served usage =>
      rw [Session.calls, List.count_append, List.count_append, usage.count_init, usage.count_close]
      rfl

theorem count_init_sessions (sessions : List (Session F)) :
    (sessions.flatMap Session.calls).count .init =
      (sessions.flatMap Session.calls).count .close := by
  induction sessions with
  | nil => rfl
  | cons session rest ih =>
      rw [List.flatMap_cons, List.count_append, List.count_append, session.count_init_eq, ih]

theorem sessions_ne_append_usage (sessions others : List (Session F)) (usage : Usage F) :
    sessions.flatMap Session.calls ≠ others.flatMap Session.calls ++ usage.calls := by
  intro heq
  have hbalanced := count_init_sessions sessions
  rw [heq, List.count_append, List.count_append, count_init_sessions others, usage.count_init,
    usage.count_close] at hbalanced
  omega

/-! ### The calls of single steps -/

theorem calls_apply (call : RouteCall F) (kernel : SimulatedKernel F) :
    (call.apply kernel).calls = kernel.calls ++ [routeCall call] := by
  cases call with
  | add route =>
      cases hfault : kernel.faults.addRoute <;>
        simp [RouteCall.apply, RouteSocket.addRoute, addRoute, record, hfault, routeCall]
  | del route =>
      by_cases hany : kernel.cache.any (sameEntry route) = true <;>
        simp [RouteCall.apply, RouteSocket.delRoute, delRoute, record, hany, routeCall]

theorem calls_foldl_apply (calls : List (RouteCall F)) (kernel : SimulatedKernel F) :
    (calls.foldl RouteCall.apply kernel).calls = kernel.calls ++ calls.map routeCall := by
  induction calls generalizing kernel with
  | nil => simp
  | cons call rest ih =>
      rw [List.foldl_cons, ih, calls_apply, List.map_cons, List.append_assoc]
      rfl

theorem calls_addInterface (slot : SlotIndex) (iface : Interface) (kernel : SimulatedKernel F) :
    (Kernel.addInterface slot iface kernel).2.calls =
      kernel.calls ++ [.addInterface slot iface.ifindex iface.name] := by
  cases hencode : iface.encode slot F with
  | error cause => simp [Kernel.addInterface, addInterface, record, hencode]
  | ok control =>
      cases hfault : kernel.faults.addInterface.lookup iface.name <;>
        simp [Kernel.addInterface, addInterface, record, hencode, hfault]

end SimulatedKernel

namespace Channel

open Multicast.Action SimulatedKernel

variable {held : List Binding} {channel : Channel F (SimulatedKernel F) τ}

theorem Holding.calls_registerInterface (hholding : Holding held channel) {iface : Interface}
    (hnew : iface.ifindex ∉ held.map Binding.ifindex) :
    (Channel.registerInterface iface channel).state.kernel.calls = channel.kernel.calls ++
      if iface.isLoopback = false ∧ held.length < slotCount then
        [attemptCall (UInt16.ofNat held.length, iface.binding)]
      else [] := by
  by_cases hloop : iface.isLoopback = true
  · rw [(registerInterface_of_loopback channel hloop).2]
    simp [hloop]
  rw [Bool.not_eq_true] at hloop
  obtain ⟨halloc, -⟩ := hholding.slots.allocate_eq F hnew
  by_cases hlt : held.length < slotCount
  · rw [if_pos hlt] at halloc
    have htried : iface.isLoopback = false ∧ held.length < slotCount := ⟨hloop, hlt⟩
    rw [if_pos htried, (registerInterface_of_allocated hloop halloc).2, calls_addInterface,
      Family.ifindex_annotate, Family.name_annotate]
    rfl
  · rw [if_neg hlt] at halloc
    rw [(registerInterface_of_not_allocated hloop halloc).2]
    simp [hlt]

theorem Holding.calls_each_registerInterface (hholding : Holding held channel)
    {entries : List Interface}
    (hnodup : (held.map Binding.ifindex ++ entries.map Interface.ifindex).Nodup) :
    ∃ attempts : List (SlotIndex × Binding), Climbs held.length (attempts.map Prod.fst) ∧
      (Action.each Channel.registerInterface entries channel).state.kernel.calls =
        channel.kernel.calls ++ attempts.map attemptCall := by
  induction entries generalizing held channel with
  | nil => exact ⟨[], climbs_nil _, by simp⟩
  | cons iface rest ih =>
      have hnew : iface.ifindex ∉ held.map Binding.ifindex := by
        intro hmem
        exact (List.nodup_append'.mp hnodup).2.2 hmem (by simp)
      have hcalls := hholding.calls_registerInterface hnew
      rw [state_each_cons]
      obtain ⟨haccepts, hlt, -, hafter⟩ | ⟨-, -, hafter⟩ := hholding.registerInterface hnew
      · obtain ⟨attempts, hclimbs, hrest⟩ := ih hafter (by simpa using hnodup)
        have hloop : iface.isLoopback = false := by
          simp only [registers, Bool.and_eq_true, Bool.not_eq_true'] at haccepts
          exact haccepts.1
        rw [if_pos ⟨hloop, hlt⟩] at hcalls
        refine ⟨(UInt16.ofNat held.length, iface.binding) :: attempts, ?_, ?_⟩
        · exact .cons hlt (.inr (by simpa using hclimbs))
        · rw [hrest, hcalls, List.append_assoc]
          rfl
      · obtain ⟨attempts, hclimbs, hrest⟩ := ih hafter (hnodup.sublist (by simp))
        by_cases htried : iface.isLoopback = false ∧ held.length < slotCount
        · rw [if_pos htried] at hcalls
          refine ⟨(UInt16.ofNat held.length, iface.binding) :: attempts, ?_, ?_⟩
          · exact .cons htried.2 (.inl hclimbs)
          · rw [hrest, hcalls, List.append_assoc]
            rfl
        · rw [if_neg htried, List.append_nil] at hcalls
          exact ⟨attempts, hclimbs, by rw [hrest, hcalls]⟩

theorem calls_drop (channel : Channel F (SimulatedKernel F) τ) :
    (Channel.drop channel).state.kernel.calls =
      channel.kernel.calls ++ if channel.holdsSocket then [.done, .close] else [] := by
  rw [state_drop]
  split
  · rw [calls_disable, if_pos ‹_›]
  · rw [List.append_nil]

variable [Sysctl τ]

theorem calls_setUp (table : InterfaceTable) (channel : Channel F (SimulatedKernel F) τ)
    (hregistered : channel.kernel.registered = []) :
    ∃ attempts : List (SlotIndex × Binding), Climbs 0 (attempts.map Prod.fst) ∧
      (setUp table channel).state.kernel.calls =
        channel.kernel.calls ++ attempts.map attemptCall := by
  obtain ⟨attempts, hclimbs, hcalls⟩ :=
    (holding_readied hregistered).calls_each_registerInterface (by simpa using table.nodup_ifindex)
  refine ⟨attempts, hclimbs, ?_⟩
  rw [state_setUp, hcalls, readied_eq]

theorem calls_enable (table : InterfaceTable) (hphase : channel.phase ≠ .enabled)
    (hregistered : channel.kernel.registered = []) :
    ∃ usage : Usage F, usage.routes = [] ∧
      (Channel.enable table channel).state.kernel.calls = channel.kernel.calls ++
        if channel.kernel.faults.openSocket.isSome then Session.unopened.calls
        else if channel.kernel.faults.init.isSome then Session.unclaimed.calls
        else usage.calls := by
  obtain ⟨attempts, hclimbs, hsetUp⟩ := calls_setUp table channel.claimed hregistered
  refine ⟨⟨attempts, hclimbs, []⟩, rfl, ?_⟩
  obtain ⟨henabled, -, -⟩ | ⟨-, errno, hopen, -, hstate⟩ | ⟨-, errno, hopen, hinit, -, hstate⟩ |
    ⟨-, hopen, hinit, -, hstate⟩ := enable_cases_simulated table channel
  · exact absurd henabled hphase
  · rw [hstate, hopen]
    rfl
  · rw [hstate, hopen, hinit]
    rfl
  · rw [hstate, hopen, hinit, hsetUp]
    simp [claimed, Usage.calls]

/-! ### Runs -/

/-- The calls so far are those of sessions that are over, and of one more while the channel is
enabled. -/
structure Recorded (channel : Channel F (SimulatedKernel F) τ) : Prop where
  life : channel.Lifecycle
  ended : channel.phase ≠ .enabled →
    ∃ sessions : List (Session F), channel.kernel.calls = sessions.flatMap Session.calls
  serving : channel.phase = .enabled →
    ∃ (sessions : List (Session F)) (usage : Usage F),
      channel.kernel.calls = sessions.flatMap Session.calls ++ usage.calls

omit [Sysctl τ] in
theorem Lifecycle.recorded_of_disabled (hlife : channel.Lifecycle)
    (hdisabled : channel.phase = .disabled) (sessions : List (Session F))
    (hcalls : channel.kernel.calls = sessions.flatMap Session.calls) : channel.Recorded where
  life := hlife
  ended := fun _ => ⟨sessions, hcalls⟩
  serving := fun henabled => by simp [hdisabled] at henabled

omit [Sysctl τ] in
theorem Lifecycle.recorded_of_enabled (hlife : channel.Lifecycle)
    (henabled : channel.phase = .enabled) (sessions : List (Session F)) (usage : Usage F)
    (hcalls : channel.kernel.calls = sessions.flatMap Session.calls ++ usage.calls) :
    channel.Recorded where
  life := hlife
  ended := fun hphase => absurd henabled hphase
  serving := fun _ => ⟨sessions, usage, hcalls⟩

omit [Sysctl τ] in
theorem recorded_fresh (faults : KernelFaults) (sysctl : τ) (forwardingSwitch : Option String) :
    (fresh faults sysctl forwardingSwitch : Channel F (SimulatedKernel F) τ).Recorded :=
  (lifecycle_fresh faults sysctl forwardingSwitch).recorded_of_disabled rfl [] rfl

theorem Recorded.enable (hrecorded : channel.Recorded) (table : InterfaceTable) :
    (Channel.enable table channel).state.Recorded := by
  have hlife := hrecorded.life.enable table
  obtain ⟨-, -, hstate⟩ | ⟨hphase, errno, -, -, hstate⟩ | ⟨hphase, errno, -, -, -, hstate⟩ |
    ⟨hphase, -, -, -, hstate⟩ := enable_cases_simulated table channel
  · rwa [hstate]
  · obtain ⟨sessions, hbefore⟩ := hrecorded.ended hphase
    rw [hstate] at hlife ⊢
    refine hlife.recorded_of_disabled rfl (sessions ++ [.unopened]) ?_
    rw [List.flatMap_append, ← hbefore]
    rfl
  · obtain ⟨sessions, hbefore⟩ := hrecorded.ended hphase
    rw [hstate] at hlife ⊢
    refine hlife.recorded_of_disabled rfl (sessions ++ [.unclaimed]) ?_
    rw [List.flatMap_append, ← hbefore]
    rfl
  · obtain ⟨sessions, hbefore⟩ := hrecorded.ended hphase
    have hidle := hrecorded.life.idle_of_ne hphase
    obtain ⟨attempts, hclimbs, hcalls⟩ := calls_setUp table channel.claimed hidle.registered
    rw [hstate] at hlife ⊢
    refine hlife.recorded_of_enabled (by rw [state_setUp]) sessions ⟨attempts, hclimbs, []⟩ ?_
    rw [hcalls, ← hbefore]
    simp [claimed, Usage.calls]

omit [Sysctl τ] in
theorem Recorded.disable (hrecorded : channel.Recorded) :
    (Channel.disable channel).state.Recorded := by
  obtain ⟨hlife, -, hdisabled⟩ := hrecorded.life.disable
  have hcalls := calls_disable channel
  by_cases henabled : channel.phase = .enabled
  · have hholds := hrecorded.life.phase_eq_enabled_iff.mp henabled
    obtain ⟨sessions, usage, hbefore⟩ := hrecorded.serving henabled
    refine hlife.recorded_of_disabled hdisabled (sessions ++ [.served usage]) ?_
    rw [hcalls, if_pos hholds, hbefore]
    simp [Session.calls]
  · have hholds := (hrecorded.life.idle_of_ne henabled).holdsSocket
    obtain ⟨sessions, hbefore⟩ := hrecorded.ended henabled
    refine hlife.recorded_of_disabled hdisabled sessions ?_
    rw [hcalls, hholds, hbefore]
    simp

omit [Sysctl τ] in
theorem Recorded.whenEnabled (hrecorded : channel.Recorded) (operation : Registry.Operation F) :
    (Channel.whenEnabled operation.perform channel).state.Recorded := by
  have hlife := hrecorded.life.whenEnabled operation
  rw [state_whenEnabled] at hlife ⊢
  by_cases hholds : channel.holdsSocket = true
  · have henabled := hrecorded.life.phase_eq_enabled_iff.mpr hholds
    obtain ⟨sessions, usage, hbefore⟩ := hrecorded.serving henabled
    rw [if_pos hholds] at hlife ⊢
    -- the routes of this session go on where they were
    refine hlife.recorded_of_enabled henabled sessions
      { usage with routes := usage.routes ++ operation.calls channel.registry } ?_
    rw [Channel.routed, calls_foldl_apply, hbefore]
    simp [Usage.calls]
  · rwa [if_neg hholds]

omit [Sysctl τ] in
theorem Recorded.inject (hrecorded : channel.Recorded) (faults : KernelFaults) :
    (channel.inject faults).Recorded :=
  { hrecorded with life := hrecorded.life.inject faults }

theorem Recorded.perform (hrecorded : channel.Recorded) (operation : Operation F) :
    (operation.perform channel).state.Recorded := by
  cases operation with
  | enable table => exact hrecorded.enable table
  | disable => exact hrecorded.disable
  | add route => exact hrecorded.whenEnabled (.add route)
  | remove route => exact hrecorded.whenEnabled (.remove route)
  | resolve flow => exact hrecorded.whenEnabled (.resolve flow)
  | inject faults => exact hrecorded.inject faults

theorem recorded_run (operations : List (Operation F)) (faults : KernelFaults) (sysctl : τ)
    (forwardingSwitch : Option String) :
    (run operations (fresh faults sysctl forwardingSwitch)).state.Recorded := by
  unfold run
  refine Action.state_each_of_forall Recorded ?_ (recorded_fresh faults sysctl forwardingSwitch)
  exact fun operation _ before hbefore => hbefore.perform operation

omit [Sysctl τ] in
theorem Recorded.drop (hrecorded : channel.Recorded) :
    ∃ sessions : List (Session F),
      (Channel.drop channel).state.kernel.calls = sessions.flatMap Session.calls := by
  obtain ⟨-, -, hdisabled⟩ := hrecorded.life.disable
  rw [calls_drop, ← calls_disable]
  exact hrecorded.disable.ended (by simp [hdisabled])

/-- **The calls are sessions** one after another, all over unless the channel is enabled; then the
last one is over once the channel is dropped. -/
theorem calls_are_sessions (operations : List (Operation F)) (faults : KernelFaults) (sysctl : τ)
    (forwardingSwitch : Option String) :
    let channel := (run operations (fresh faults sysctl forwardingSwitch)).state
    (channel.phase ≠ .enabled ↔
      ∃ sessions : List (Session F), channel.kernel.calls = sessions.flatMap Session.calls) ∧
    (channel.phase = .enabled ↔
      ∃ (sessions : List (Session F)) (usage : Usage F),
        channel.kernel.calls = sessions.flatMap Session.calls ++ usage.calls) ∧
    (∃ sessions : List (Session F),
      (drop channel).state.kernel.calls = sessions.flatMap Session.calls) ∧
    ∀ table, channel.phase ≠ .enabled →
      ∃ usage : Usage F, usage.routes = [] ∧
        (enable table channel).state.kernel.calls = channel.kernel.calls ++
          if channel.kernel.faults.openSocket.isSome then Session.unopened.calls
          else if channel.kernel.faults.init.isSome then Session.unclaimed.calls
          else usage.calls := by
  intro channel
  have hrecorded : channel.Recorded := recorded_run operations faults sysctl forwardingSwitch
  refine ⟨⟨hrecorded.ended, ?_⟩, ⟨hrecorded.serving, ?_⟩, hrecorded.drop, ?_⟩
  · rintro ⟨sessions, hended⟩ henabled
    obtain ⟨others, usage, hserving⟩ := hrecorded.serving henabled
    exact sessions_ne_append_usage sessions others usage (hended.symm.trans hserving)
  · rintro ⟨others, usage, hserving⟩
    by_contra hphase
    obtain ⟨sessions, hended⟩ := hrecorded.ended hphase
    exact sessions_ne_append_usage sessions others usage (hended.symm.trans hserving)
  · intro table hphase
    exact calls_enable table hphase (hrecorded.life.idle_of_ne hphase).registered

end Channel

end Multicast
