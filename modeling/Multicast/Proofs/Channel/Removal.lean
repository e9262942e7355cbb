import Multicast.Interface.Samples
import Multicast.Proofs.Channel.Accounting

/-!
# What removing a template deletes

Instances are looked up by group and slot, and deleted by origin and group. A deletion so takes out
whatever route holds the key by then, also one for traffic that arrives on another slot.
-/

namespace Multicast.Channel

open Multicast.Action SimulatedKernel

variable {F : Family} {τ : Type} [Sysctl τ]

/-- **What survives the removal of a template:** entries for other groups, and those for a known
sender that no instance for this group and slot has. -/
theorem mem_cache_remove_iff (operations : List (Operation F)) (faults : KernelFaults) (sysctl : τ)
    (forwardingSwitch : Option String) {template : Route F} (hwild : template.isWildcard = true)
    (entry : Route F) :
    let channel := (run operations (fresh faults sysctl forwardingSwitch)).state
    entry ∈ (remove template channel).state.kernel.cache ↔
      entry ∈ channel.kernel.cache ∧
        (entry.group ≠ template.group ∨
          entry.origin ≠ F.unspecified ∧
            ∀ known ∈ channel.registry.instances,
              known.group = template.group → known.inbound = template.inbound →
                known.origin ≠ entry.origin) := by
  intro channel
  have haccounted := accounted_run operations faults sysctl forwardingSwitch
  rw [state_remove]
  by_cases hholds : channel.holdsSocket = true
  · have horigin : template.origin = F.unspecified := by simpa [Route.isWildcard] using hwild
    rw [if_pos hholds, mem_cache_routed_remove haccounted.coherent hwild, and_assoc]
    refine and_congr_right fun _ => ?_
    simp only [Registry.instancesFor, List.mem_filter, Route.isFor_iff, Route.cacheKey, ne_eq,
      Prod.mk.injEq, horigin]
    grind
  · have hempty : channel.kernel.cache = [] :=
      (haccounted.life.idle (by simpa using hholds)).cache
    simp [hholds, hempty]

/-! ### A flow that moves to another slot -/

def groupOne : IPv4 := ⟨239, 1, 1, 1⟩

def forth : Route .ipv4 := .wildcard groupOne 0 (Family.Outbound.set .empty 1 1)

def back : Route .ipv4 := .wildcard groupOne 1 (Family.Outbound.set .empty 0 1)

def flowOn (inbound : SlotIndex) : Flow .ipv4 := ⟨⟨10, 0, 0, 5⟩, groupOne, inbound⟩

/-- The flow arrives on the first slot, then on the second. -/
def movedFlow : List (Operation .ipv4) :=
  [.enable .basic, .add forth, .add back, .resolve (flowOn 0), .resolve (flowOn 1)]

/-- The entry for the slot that the flow moved to goes with the template for the slot it left. -/
theorem movedFlow_lost :
    let channel := (run movedFlow (fresh {} ({} : RecordingSysctl) none)).state
    let entry := (flowOn 1).toRoute back.outbound
    channel.phase = .enabled ∧ forth.isWildcard = true ∧ entry ∈ channel.kernel.cache ∧
      entry.inbound ≠ forth.inbound ∧ entry ∉ (remove forth channel).state.kernel.cache := by
  decide +kernel

def settledFlow : List (Operation .ipv4) :=
  [.enable .basic, .add forth, .add back, .resolve (flowOn 1)]

theorem settledFlow_kept :
    let channel := (run settledFlow (fresh {} ({} : RecordingSysctl) none)).state
    forth.isWildcard = true ∧
      (flowOn 1).toRoute back.outbound ∈ (remove forth channel).state.kernel.cache :=
  ⟨by decide, (mem_cache_remove_iff settledFlow _ _ _ (by decide) _).mpr (by decide +kernel)⟩

end Multicast.Channel
