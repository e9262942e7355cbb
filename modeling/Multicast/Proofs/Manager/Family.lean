import Multicast.Proofs.Interface.Seen
import Multicast.Proofs.Manager.Start

/-!
# Either family of a manager

A manager treats its families alike, one after the other. What it does with the one is stated here
for either, together with what stays as it is for the other: the channel that is not acted on, and
the slots that it has on the interfaces.
-/

namespace Multicast

open Multicast.Action

variable {F G : Family} {τ α : Type}

def RouteEntry.family (entry : RouteEntry) : Family :=
  if entry.group.isIPv4 then .ipv4 else .ipv6

namespace Manager

def channel : (F : Family) → Simulated τ → Channel F (SimulatedKernel F) τ
  | .ipv4, manager => manager.ipv4
  | .ipv6, manager => manager.ipv6

def onFamily : (F : Family) → Action (Channel F (SimulatedKernel F) τ) α → Action (Simulated τ) α
  | .ipv4, action => onIPv4 action
  | .ipv6, action => onIPv6 action

@[simp]
theorem channel_interfaces (F : Family) (manager : Simulated τ) (interfaces : InterfaceTable) :
    channel F { manager with interfaces } = manager.channel F := by
  cases F <;> rfl

theorem New.channel_eq {manager : Simulated τ} (hnew : manager.New) (F : Family) :
    ∃ faults sysctl path, manager.channel F = Channel.fresh faults sysctl path := by
  cases F with
  | ipv4 => exact hnew.1
  | ipv6 => exact hnew.2

section OnFamily

variable (action : Action (Channel F (SimulatedKernel F) τ) α) (manager : Simulated τ)

@[simp]
theorem answer_onFamily :
    (onFamily F action manager).answer = (action (manager.channel F)).answer := by
  cases F <;> rfl

@[simp]
theorem channel_onFamily :
    (onFamily F action manager).state.channel F = (action (manager.channel F)).state := by
  cases F <;> rfl

theorem channel_onFamily_of_ne (other : Action (Channel G (SimulatedKernel G) τ) α) (hne : F ≠ G) :
    (onFamily G other manager).state.channel F = manager.channel F := by
  cases F <;> cases G <;> first | rfl | exact absurd rfl hne

@[simp]
theorem interfaces_onFamily :
    (onFamily F action manager).state.interfaces = manager.interfaces := by
  cases F <;> rfl

@[simp]
theorem config_onFamily : (onFamily F action manager).state.config = manager.config := by
  cases F <;> rfl

end OnFamily

theorem Annotates.seenBy_eq {interfaces annotated : InterfaceTable}
    (hannotates : Annotates G interfaces annotated) (hne : F ≠ G) :
    annotated.seenBy F = interfaces.seenBy F := by
  rcases hannotates with rfl | ⟨slots, rfl⟩
  · rfl
  · exact InterfaceTable.seenBy_annotate_of_ne hne slots interfaces

theorem applyOne_of_family {entry : RouteEntry} (hfamily : entry.family = F)
    (interfaces : InterfaceTable) (defaultTtl : UInt8) :
    (applyOne interfaces defaultTtl entry : Action (Simulated τ) Applied) =
      onFamily F (applyEntry interfaces defaultTtl entry) := by
  unfold applyOne
  split
  case isTrue hipv4 =>
    obtain rfl : Family.ipv4 = F := (if_pos hipv4).symm.trans hfamily
    rfl
  case isFalse hipv6 =>
    obtain rfl : Family.ipv6 = F := (if_neg hipv6).symm.trans hfamily
    rfl

theorem applyRoutes_apply (manager : Simulated τ) :
    let results := Action.each
      (applyOne manager.interfaces manager.config.daemon.defaultTtl) manager.config.routes manager
    (applyRoutes manager).answer = Summary.ofList results.answer ∧
      (applyRoutes manager).state = results.state := ⟨rfl, rfl⟩

theorem channel_each_applyOne (interfaces : InterfaceTable) (defaultTtl : UInt8)
    (routes : List RouteEntry) (manager : Simulated τ) (F : Family) :
    (Action.each (applyOne interfaces defaultTtl) routes manager).state.channel F =
      (Action.each (applyEntry interfaces defaultTtl) (routes.filter fun entry => entry.family = F)
        (manager.channel F)).state := by
  induction routes generalizing manager with
  | nil => rfl
  | cons entry rest ih =>
      rw [state_each_cons, ih]
      by_cases hfamily : entry.family = F
      · rw [List.filter_cons_of_pos (by simpa using hfamily), state_each_cons,
          applyOne_of_family hfamily, channel_onFamily]
      · rw [List.filter_cons_of_neg (by simpa using hfamily), applyOne_of_family rfl,
          channel_onFamily_of_ne _ _ (Ne.symm hfamily)]

/-- Of the configured routes a channel gets those of its family, in their order. -/
theorem channel_applyRoutes (manager : Simulated τ) (F : Family) :
    (applyRoutes manager).state.channel F =
      (Action.each (applyEntry manager.interfaces manager.config.daemon.defaultTtl)
        (manager.config.routes.filter fun entry => entry.family = F)
        (manager.channel F)).state := by
  rw [(applyRoutes_apply manager).2, channel_each_applyOne]

theorem frame_applyRoutes (manager : Simulated τ) :
    (applyRoutes manager).state.interfaces = manager.interfaces ∧
      (applyRoutes manager).state.config = manager.config := by
  rw [(applyRoutes_apply manager).2]
  refine Action.state_each_of_forall
    (fun after : Simulated τ => after.interfaces = manager.interfaces ∧
      after.config = manager.config) ?_ ⟨rfl, rfl⟩
  rintro entry - before ⟨hinterfaces, hconfig⟩
  rw [applyOne_of_family rfl]
  exact ⟨(interfaces_onFamily _ before).trans hinterfaces, (config_onFamily _ before).trans hconfig⟩

variable [Sysctl τ]

theorem Drives.channel {before after : Simulated τ} (hdrives : Drives before after) (F : Family) :
    Channel.Reaches (before.channel F) (after.channel F) := by
  cases F with
  | ipv4 => exact hdrives.1
  | ipv6 => exact hdrives.2

theorem Reachable.lifecycle_channel {manager : Simulated τ} (hreachable : manager.Reachable)
    (F : Family) : (manager.channel F).Lifecycle := by
  cases F with
  | ipv4 => exact hreachable.lifecycle.1
  | ipv6 => exact hreachable.lifecycle.2

def enableOne (F : Family) : Action (Simulated τ) (Except DaemonError Unit) :=
  enableWanted F fun table => onFamily F (enableFamily table)

theorem enableOne_cases (F : Family) (manager : Simulated τ) :
    (manager.config.wants F = false ∧ (enableOne F manager).answer = .ok () ∧
      (enableOne F manager).state = manager) ∨
    (manager.config.wants F = true ∧ ∃ err,
      (enableFamily manager.interfaces (manager.channel F)).answer = .error err ∧
        (enableOne F manager).answer = .error err ∧
        (enableOne F manager).state =
          (onFamily F (enableFamily manager.interfaces) manager).state) ∨
    (manager.config.wants F = true ∧ ∃ interfaces,
      (enableFamily manager.interfaces (manager.channel F)).answer = .ok interfaces ∧
        (enableOne F manager).answer = .ok () ∧
        (enableOne F manager).state =
          { (onFamily F (enableFamily manager.interfaces) manager).state with interfaces }) := by
  have hcases := enableWanted_cases F (fun table => onFamily F (enableFamily table)) manager
  simp only [answer_onFamily] at hcases
  exact hcases

theorem config_enableOne (F : Family) (manager : Simulated τ) :
    (enableOne F manager).state.config = manager.config := by
  obtain ⟨-, -, hstate⟩ | ⟨-, err, -, -, hstate⟩ | ⟨-, interfaces, -, -, hstate⟩ :=
    enableOne_cases F manager
  · rw [hstate]
  · rw [hstate, config_onFamily]
  · rw [hstate]
    exact config_onFamily _ manager

/-- A family that is enabled records its slots on the interfaces, and changes nothing else about
them; one that is left out changes nothing. -/
theorem annotates_enableFamily {κ : Type} [Kernel F κ] {interfaces annotated : InterfaceTable}
    {channel : Channel F κ τ}
    (hok : (enableFamily interfaces channel).answer = .ok annotated) :
    Annotates F interfaces annotated := by
  rw [answer_enableFamily] at hok
  obtain ⟨-, hanswer, -⟩ | ⟨-, err, -, hanswer, -⟩ | ⟨-, -, hanswer, -⟩ :=
    Channel.enable_cases interfaces channel
  · simp only [hanswer, RoutingError.isFatal, Bool.false_eq_true, if_false] at hok
    cases hok
    exact .inl rfl
  · simp only [hanswer] at hok
    split at hok
    · cases hok
    · cases hok
      exact .inl rfl
  · simp only [hanswer, Except.ok.injEq, Channel.answer_setUp] at hok
    exact .inr ⟨_, hok.symm⟩

theorem enableOne_of_ne (hne : F ≠ G) (manager : Simulated τ) :
    (enableOne G manager).state.channel F = manager.channel F ∧
      Annotates G manager.interfaces (enableOne G manager).state.interfaces := by
  obtain ⟨-, -, hstate⟩ | ⟨-, err, -, -, hstate⟩ | ⟨-, interfaces, hok, -, hstate⟩ :=
    enableOne_cases G manager
  · rw [hstate]
    exact ⟨rfl, .inl rfl⟩
  · rw [hstate, interfaces_onFamily]
    exact ⟨channel_onFamily_of_ne _ _ hne, .inl rfl⟩
  · rw [hstate, channel_interfaces]
    exact ⟨channel_onFamily_of_ne _ _ hne, annotates_enableFamily hok⟩

end Manager

end Multicast
