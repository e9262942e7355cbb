import Multicast.Config.Document
import Multicast.Interface.Samples
import Multicast.Proofs.Channel.Exchange
import Multicast.Proofs.Daemon.Course

/-!
# A daemon that ends leaves nothing behind

A daemon can end before it has a manager that works, between the families, between the stop and the
start of a reload, or on a signal. Its manager is dropped in each case, and the channels are then in
the stage that they were in: what is claimed is given up, and what is idle is left alone.
-/

namespace Multicast

open Multicast.Action

variable {F : Family} {κ τ : Type}

instance [Faulty κ] : Faulty (Heard F κ) where
  withFaults faults heard := { heard with kernel := Faulty.withFaults faults heard.kernel }

abbrev HeardManager (τ : Type) : Type :=
  Manager (Heard .ipv4 (SimulatedKernel .ipv4)) (Heard .ipv6 (SimulatedKernel .ipv6)) τ

def heardManager (ipv4 ipv6 : KernelFaults) (sysctl : τ) : HeardManager τ :=
  .ofConfig {} { kernel := { faults := ipv4 } } { kernel := { faults := ipv6 } } sysctl

/-- Nothing is open, cached or registered, and of the calls that were made each claim that went
through was given up once, and its socket closed. -/
def Released (heard : Heard F (SimulatedKernel F)) : Prop :=
  heard.kernel.Free ∧ heard.kernel.calls = heard.exchanges.map Exchange.call ∧
    Settled heard.exchanges

def Held (heard : Heard F (SimulatedKernel F)) : Prop :=
  heard.kernel.openSockets = 1 ∧ heard.kernel.calls = heard.exchanges.map Exchange.call ∧
    Claimed heard.exchanges

theorem stages_released :
    Kernel.Stages (F := F) Released
      (fun heard => heard.kernel.openSockets = 1 ∧ SimulatedKernel.Faithful heard ∧
        Settled heard.exchanges) Held :=
  SimulatedKernel.stages_free.heard.and (SimulatedKernel.stages_faithful.and stages_settled)

theorem released_fresh (faults : KernelFaults) :
    Released ({ kernel := { faults } } : Heard F (SimulatedKernel F)) :=
  ⟨⟨rfl, rfl, rfl⟩, rfl, settled_nil⟩

theorem endures_released [Sysctl τ] :
    Channel.Endures (τ := τ) (Channel.Staged (F := F) Released Held) where
  toInvariant := Channel.invariant_staged stages_released
  withFaults := fun faults channel hstaged => by
    refine hstaged.withKernel ?_ ?_
    · exact fun ⟨hfree, hreleased⟩ => ⟨{ hfree with }, hreleased⟩
    · exact fun hheld => hheld

namespace Daemon

variable [Sysctl τ]

/-- **A daemon that ends leaves nothing behind:** no socket is open, nothing is cached or
registered, and each claim that went through was used, given up once, and its socket closed. -/
theorem released_of_ended (file : ConfigFile) (findings : Findings) (occurrences : List Occurrence)
    (ipv4 ipv6 : KernelFaults) (sysctl : τ)
    (hended : (lifetime file findings occurrences (heardManager ipv4 ipv6 sysctl)).answer ≠ none) :
    let ended := (lifetime file findings occurrences (heardManager ipv4 ipv6 sysctl)).state
    Released ended.ipv4.kernel ∧ Released ended.ipv6.kernel := by
  intro ended
  have hmade : ∀ config, Manager.Keeps (Channel.Staged Released Held) (Channel.Staged Released Held)
      (.ofConfig config (heardManager ipv4 ipv6 sysctl).ipv4.kernel
        (heardManager ipv4 ipv6 sysctl).ipv6.kernel (heardManager ipv4 ipv6 sysctl).ipv6.sysctl) :=
    fun config => ⟨Channel.staged_new (released_fresh ipv4) _ _,
      Channel.staged_new (released_fresh ipv6) _ _⟩
  have hkeeps := keeps_course endures_released endures_released hmade (hmade {}) file findings
    occurrences
  obtain ⟨-, hanswer⟩ | ⟨-, -, hstate⟩ :=
    lifetime_cases file findings occurrences (heardManager ipv4 ipv6 sysctl)
  · exact absurd hanswer hended
  · have hdropped : ended = _ := hstate
    rw [hdropped]
    exact ⟨hkeeps.ipv4.idle_drop stages_released, hkeeps.ipv6.idle_drop stages_released⟩

/-- A reload that ends the daemon between the families: IPv4 was claimed twice by then. -/
theorem released_between :
    let ended := lifetime (.toml "mroutemgrd.toml") (.unconfigured .basic)
      [.told (.hangup ⟨.error (.errno Errno.access), .ok .basic⟩), .ipv6 { init := some 22 },
        .told (.hangup (.unconfigured .basic)), .told .terminate]
      (heardManager {} {} SwitchFile.missing)
    ended.answer = some 1 ∧
      ended.state.ipv4.kernel.exchanges.count ⟨.init, true⟩ = 2 ∧
      ended.state.ipv6.kernel.exchanges.count ⟨.init, true⟩ = 1 ∧
      ended.state.ipv6.kernel.exchanges.count ⟨.init, false⟩ = 1 ∧
      Released ended.state.ipv4.kernel ∧ Released ended.state.ipv6.kernel := by
  intro ended
  have hanswer : ended.answer = some 1 := by decide +kernel
  have hended : ended.answer ≠ none := by simp [hanswer]
  exact ⟨hanswer, by decide +kernel, by decide +kernel, by decide +kernel,
    released_of_ended _ _ _ _ _ _ hended⟩

end Daemon

end Multicast
