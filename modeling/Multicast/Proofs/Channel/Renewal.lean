import Multicast.Proofs.Channel.Lifecycle
import Multicast.Proofs.Channel.Projection

/-!
# A channel that is given up is a new one

No answer of a kernel, and nothing that a call leaves but the call itself, depends on the calls made
before. So a channel does after any calls what it does after none; and giving a channel up leaves
one that differs from a new channel in its calls alone.
-/

namespace Multicast

open Multicast.Action

variable {F : Family} {τ : Type}

namespace SimulatedKernel

def after (earlier : List (KernelCall F)) (kernel : SimulatedKernel F) : SimulatedKernel F :=
  { kernel with calls := earlier ++ kernel.calls }

variable (earlier : List (KernelCall F))

theorem record_after (call : KernelCall F) (kernel : SimulatedKernel F) :
    (kernel.after earlier).record call = (kernel.record call).after earlier := by
  simp [record, after]

theorem openSocket_after (kernel : SimulatedKernel F) :
    Kernel.openSocket (kernel.after earlier) =
      ((Kernel.openSocket kernel).1, (Kernel.openSocket kernel).2.after earlier) := by
  cases hfault : kernel.faults.openSocket with
  | none =>
      have hafter : (kernel.after earlier).faults.openSocket = none := hfault
      rw [openSocket_of_none hfault, openSocket_of_none hafter, record_after]
      rfl
  | some errno =>
      have hafter : (kernel.after earlier).faults.openSocket = some errno := hfault
      rw [openSocket_of_some hfault, openSocket_of_some hafter, record_after]

theorem claim_after (kernel : SimulatedKernel F) :
    Kernel.claim (kernel.after earlier) =
      ((Kernel.claim kernel).1, (Kernel.claim kernel).2.after earlier) := by
  rw [claim_eq, claim_eq, record_after]
  rfl

theorem release_after (kernel : SimulatedKernel F) :
    Kernel.release (kernel.after earlier) =
      ((Kernel.release kernel).1, (Kernel.release kernel).2.after earlier) :=
  Prod.ext rfl (record_after earlier .done kernel)

theorem close_after (kernel : SimulatedKernel F) :
    Kernel.close (kernel.after earlier) = (Kernel.close kernel).after earlier := by
  rw [close_eq, close_eq, record_after]
  rfl

theorem addInterface_after (slot : SlotIndex) (iface : Interface) (kernel : SimulatedKernel F) :
    Kernel.addInterface slot iface (kernel.after earlier) =
      ((Kernel.addInterface slot iface kernel).1,
        (Kernel.addInterface slot iface kernel).2.after earlier) := by
  have hrecord := record_after earlier (.addInterface slot iface.ifindex iface.name) kernel
  cases hencode : iface.encode slot F with
  | error cause => simp [Kernel.addInterface, addInterface, hencode, hrecord]
  | ok control =>
      cases hfault : kernel.faults.addInterface.lookup iface.name <;>
        simp [Kernel.addInterface, addInterface, hencode, hfault, record, after]

theorem addRoute_after (route : Route F) (kernel : SimulatedKernel F) :
    RouteSocket.addRoute route (kernel.after earlier) =
      ((RouteSocket.addRoute route kernel).1,
        (RouteSocket.addRoute route kernel).2.after earlier) := by
  cases hfault : kernel.faults.addRoute <;>
    simp [RouteSocket.addRoute, addRoute, record, after, hfault]

theorem delRoute_after (route : Route F) (kernel : SimulatedKernel F) :
    RouteSocket.delRoute route (kernel.after earlier) =
      ((RouteSocket.delRoute route kernel).1,
        (RouteSocket.delRoute route kernel).2.after earlier) := by
  cases hcached : kernel.cache.any (sameEntry route) <;>
    simp [RouteSocket.delRoute, delRoute, record, after, hcached]

theorem projects_after : Kernel.Projects (after earlier) where
  addRoute := fun route kernel => by rw [call_apply, call_apply, addRoute_after]
  delRoute := fun route kernel => by rw [call_apply, call_apply, delRoute_after]
  openSocket := fun kernel => by rw [call_apply, call_apply, openSocket_after]
  claim := fun kernel => by rw [call_apply, call_apply, claim_after]
  release := fun kernel => by rw [call_apply, call_apply, release_after]
  addInterface := fun slot iface kernel => by rw [call_apply, call_apply, addInterface_after]
  close := close_after earlier

end SimulatedKernel

namespace Channel

/-- The channel, had other calls been made to its kernel before. -/
def after (earlier : List (KernelCall F)) (channel : Channel F (SimulatedKernel F) τ) :
    Channel F (SimulatedKernel F) τ :=
  { channel with kernel := channel.kernel.after earlier }

/-! ### Giving up -/

def closing (channel : Channel F (SimulatedKernel F) τ) : List (KernelCall F) :=
  if channel.isEnabled then [.done, .close] else []

variable {channel : Channel F (SimulatedKernel F) τ}

/-- An idle channel differs from a new one in its calls alone. -/
theorem Idle.eq_after (hidle : channel.Idle) (hphase : channel.phase = .disabled) :
    channel = (fresh channel.kernel.faults channel.sysctl channel.forwardingSwitch).after
      channel.kernel.calls := by
  obtain ⟨⟨calls, cache, registered, openSockets, faults⟩, sysctl, path, phase, holds, slots,
    registry⟩ := channel
  obtain ⟨rfl, rfl, rfl, rfl, rfl, rfl⟩ := hidle
  obtain rfl : phase = .disabled := hphase
  simp [after, SimulatedKernel.after, fresh]

theorem Lifecycle.isEnabled_eq (hlife : channel.Lifecycle) :
    channel.isEnabled = channel.holdsSocket := by
  rw [Bool.eq_iff_iff, ← hlife.phase_eq_enabled_iff, isEnabled, decide_eq_true_iff]

theorem Lifecycle.disable_eq_after (hlife : channel.Lifecycle) :
    (Channel.disable channel).state =
      (fresh channel.kernel.faults channel.sysctl channel.forwardingSwitch).after
        (channel.kernel.calls ++ channel.closing) := by
  obtain ⟨-, hidle, hdisabled⟩ := hlife.disable
  have hwiring := wiring_disable channel
  have hsysctl : (Channel.disable channel).state.sysctl = channel.sysctl :=
    congrArg Prod.fst hwiring
  have hpath : (Channel.disable channel).state.forwardingSwitch = channel.forwardingSwitch :=
    congrArg Prod.snd hwiring
  have hafter := hidle.eq_after hdisabled
  rw [faults_disable, hsysctl, hpath, calls_disable] at hafter
  rw [closing, hlife.isEnabled_eq]
  exact hafter

end Channel

end Multicast
