import Multicast.Proofs.Channel.Renewal
import Multicast.Proofs.Manager.Projection
import Multicast.Proofs.Manager.Start

/-!
# A reload is a new start

Stopping a manager leaves channels that differ from new ones in their calls alone, and a start goes
the same whatever was called before. So nothing of what a manager did shows in what a reload leaves
but the calls, whatever state the manager was in.
-/

namespace Multicast.Manager

open Multicast.Action

variable {τ : Type} [Sysctl τ]

/-! ### Starting after other calls -/

def after (ipv4 : List (KernelCall .ipv4)) (ipv6 : List (KernelCall .ipv6))
    (manager : Simulated τ) : Simulated τ :=
  { manager with ipv4 := manager.ipv4.after ipv4, ipv6 := manager.ipv6.after ipv6 }

theorem start_commutes {ipv4 : List (KernelCall .ipv4)} {ipv6 : List (KernelCall .ipv6)}
    (table : InterfaceTable) :
    Commutes (after ipv4 ipv6)
      (start table : Action (Simulated τ) (Except DaemonError Summary)) :=
  projects_start (SimulatedKernel.projects_after ipv4) (SimulatedKernel.projects_after ipv6)
    Sysctl.projects_id table

/-! ### Reloading -/

/-- A new manager with another configuration, whose kernels fail as this one's do, on the same
switches. -/
def renewed (config : Config) (manager : Simulated τ) : Simulated τ where
  config
  ipv4 := Channel.fresh manager.ipv4.kernel.faults manager.ipv4.sysctl manager.ipv4.forwardingSwitch
  ipv6 := Channel.fresh manager.ipv6.kernel.faults manager.ipv6.sysctl manager.ipv6.forwardingSwitch

variable {manager : Simulated τ}

theorem Reachable.stop_eq (hreachable : manager.Reachable) (config : Config) :
    { (stop manager).state with config } =
      { (manager.renewed config).after (manager.ipv4.kernel.calls ++ manager.ipv4.closing)
          (manager.ipv6.kernel.calls ++ manager.ipv6.closing) with
        interfaces := manager.interfaces } := by
  obtain ⟨hlife, hlife'⟩ := hreachable.lifecycle
  have hstate : { (stop manager).state with config } =
      { manager with
        config
        ipv4 := (Channel.disable manager.ipv4).state
        ipv6 := (Channel.disable manager.ipv6).state } := rfl
  rw [hstate, hlife.disable_eq_after, hlife'.disable_eq_after]
  rfl

/-- **A reload is a new start:** it answers and leaves what a new manager does. Only the calls tell
them apart. -/
theorem reload_eq_start (hreachable : manager.Reachable) (config : Config)
    (table : InterfaceTable) :
    let started := start table (manager.renewed config)
    (reload config table manager).answer = started.answer ∧
      (reload config table manager).state =
        started.state.after (manager.ipv4.kernel.calls ++ manager.ipv4.closing)
          (manager.ipv6.kernel.calls ++ manager.ipv6.closing) := by
  intro started
  have hreload : (reload config table manager).answer =
        (start table { (stop manager).state with config }).answer ∧
      (reload config table manager).state =
        (start table { (stop manager).state with config }).state := ⟨rfl, rfl⟩
  -- a start does not look at the interfaces that are there before it
  have hstart : ∀ before : Simulated τ,
      start table { before with interfaces := manager.interfaces } = start table before :=
    fun _ => rfl
  have hcommutes : Commutes
      (after (τ := τ) (manager.ipv4.kernel.calls ++ manager.ipv4.closing)
        (manager.ipv6.kernel.calls ++ manager.ipv6.closing)) (start table) := start_commutes table
  rw [hreload.1, hreload.2, hreachable.stop_eq, hstart]
  exact ⟨hcommutes.answer _, hcommutes.state _⟩

/-- A route derived from a template is gone after a reload, and so is IPv6, which the kernel has
ceased to offer. -/
theorem twoWays_reloaded :
    let manager := (run
      [.start .basic, .ipv4 (.resolve ⟨⟨10, 0, 0, 9⟩, ⟨239, 1, 1, 1⟩, 0⟩),
        .ipv6 (.inject { openSocket := some 93 })] twoWaysManager).state
    let started := start .basic (manager.renewed twoWays)
    manager.ipv4.kernel.cache.length = 2 ∧ manager.ipv6.isEnabled = true ∧
      started.answer.isOk = true ∧ started.state.ipv4.kernel.cache = [hostRoute] ∧
      started.state.ipv6.isEnabled = false ∧
      (reload twoWays .basic manager).answer = started.answer ∧
      (reload twoWays .basic manager).state =
        started.state.after (manager.ipv4.kernel.calls ++ [.done, .close])
          (manager.ipv6.kernel.calls ++ [.done, .close]) := by
  intro manager started
  have hreachable : manager.Reachable :=
    ⟨twoWaysManager, ⟨⟨{}, {}, none, rfl⟩, {}, {}, none, rfl⟩, _, rfl⟩
  obtain ⟨hanswer, hstate⟩ := reload_eq_start hreachable twoWays .basic
  exact ⟨by decide +kernel, by decide +kernel, by decide +kernel, by decide +kernel,
    by decide +kernel, hanswer, hstate⟩

end Multicast.Manager
