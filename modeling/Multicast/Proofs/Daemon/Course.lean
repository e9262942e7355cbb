import Multicast.Kernel.Simulated
import Multicast.Proofs.Daemon.Operation

/-!
# A daemon over kernels that come to fail

While a daemon runs it is told signals, and its kernels come to fail in other ways than before.
Among kernels that fail as they did all the time this is what a daemon does with its signals.
-/

namespace Multicast

open Multicast.Action

variable {F : Family} {κ κ₄ κ₆ τ : Type}

class Faulty (κ : Type) where
  withFaults : KernelFaults → κ → κ

instance : Faulty (SimulatedKernel F) where
  withFaults faults kernel := { kernel with faults }

namespace Channel

def withFaults [Faulty κ] (faults : KernelFaults) (channel : Channel F κ τ) : Channel F κ τ :=
  { channel with kernel := Faulty.withFaults faults channel.kernel }

/-- The property is kept whatever is done with the channel, and however its kernel comes to fail. -/
structure Endures [Kernel F κ] [Faulty κ] [Sysctl τ] (keeps : Channel F κ τ → Prop) : Prop
    extends Invariant keeps where
  withFaults : ∀ faults channel, keeps channel → keeps (channel.withFaults faults)

end Channel

inductive Occurrence where
  | told (signal : Signal)
  | ipv4 (faults : KernelFaults)
  | ipv6 (faults : KernelFaults)

def Findings.unconfigured (interfaces : InterfaceTable) : Findings where
  content := .error (.errno Errno.noEntry)
  interfaces := .ok interfaces

namespace Daemon

variable [Kernel .ipv4 κ₄] [Kernel .ipv6 κ₆] [Faulty κ₄] [Faulty κ₆] [Sysctl τ]

def meet (file : ConfigFile) : Occurrence → Action (Manager κ₄ κ₆ τ) Status
  | .told signal => handle file signal
  | .ipv4 faults => do
    Action.update fun manager => { manager with ipv4 := manager.ipv4.withFaults faults }
    pure .running
  | .ipv6 faults => do
    Action.update fun manager => { manager with ipv6 := manager.ipv6.withFaults faults }
    pure .running

def live (file : ConfigFile) : List Occurrence → Action (Manager κ₄ κ₆ τ) Status
  | [] => pure .running
  | occurrence :: rest => do
    match ← meet file occurrence with
    | .running => live file rest
    | ended => pure ended

def course (file : ConfigFile) (findings : Findings) (occurrences : List Occurrence) :
    Action (Manager κ₄ κ₆ τ) Status := do
  match ← launch file findings with
  | .running => live file occurrences
  | ended => pure ended

def lifetime (file : ConfigFile) (findings : Findings) (occurrences : List Occurrence) :
    Action (Manager κ₄ κ₆ τ) (Option UInt8) := do
  Action.log starting
  finish (← course file findings occurrences)

theorem live_told (file : ConfigFile) (signals : List Signal) :
    (live file (signals.map .told) : Action (Manager κ₄ κ₆ τ) Status) = serve file signals := by
  induction signals with
  | nil => rfl
  | cons signal rest ih =>
      rw [List.map_cons, live, ih]
      rfl

theorem course_told (file : ConfigFile) (findings : Findings) (signals : List Signal) :
    (course file findings (signals.map .told) : Action (Manager κ₄ κ₆ τ) Status) =
      run file findings signals := by
  rw [course, live_told]
  rfl

/-- Without changes of the kernels the lifetime of a daemon is what the program does. -/
theorem lifetime_told (file : ConfigFile) (findings : Findings) (signals : List Signal) :
    (lifetime file findings (signals.map .told) : Action (Manager κ₄ κ₆ τ) (Option UInt8)) =
      program file findings signals := by
  rw [lifetime, program, course_told]

theorem live_cons (file : ConfigFile) (occurrence : Occurrence) (rest : List Occurrence)
    (manager : Manager κ₄ κ₆ τ) :
    ((meet file occurrence manager).answer = .running ∧
        (live file (occurrence :: rest) manager).answer =
          (live file rest (meet file occurrence manager).state).answer ∧
        (live file (occurrence :: rest) manager).state =
          (live file rest (meet file occurrence manager).state).state) ∨
      ((meet file occurrence manager).answer ≠ .running ∧
        (live file (occurrence :: rest) manager).answer = (meet file occurrence manager).answer ∧
        (live file (occurrence :: rest) manager).state = (meet file occurrence manager).state) := by
  cases hmeet : (meet file occurrence manager).answer with
  | running => exact .inl ⟨rfl, by simp [live, hmeet], by simp [live, hmeet]⟩
  | stopped => exact .inr ⟨by simp, by simp [live, hmeet], by simp [live, hmeet]⟩
  | failed failure => exact .inr ⟨by simp, by simp [live, hmeet], by simp [live, hmeet]⟩

theorem course_cases (file : ConfigFile) (findings : Findings) (occurrences : List Occurrence)
    (manager : Manager κ₄ κ₆ τ) :
    ((launch file findings manager).answer = .running ∧
        (course file findings occurrences manager).answer =
          (live file occurrences (launch file findings manager).state).answer ∧
        (course file findings occurrences manager).state =
          (live file occurrences (launch file findings manager).state).state) ∨
      ((launch file findings manager).answer ≠ .running ∧
        (course file findings occurrences manager).answer =
          (launch file findings manager).answer ∧
        (course file findings occurrences manager).state =
          (launch file findings manager).state) := by
  cases hlaunch : (launch file findings manager).answer with
  | running => exact .inl ⟨rfl, by simp [course, hlaunch], by simp [course, hlaunch]⟩
  | stopped => exact .inr ⟨by simp, by simp [course, hlaunch], by simp [course, hlaunch]⟩
  | failed failure => exact .inr ⟨by simp, by simp [course, hlaunch], by simp [course, hlaunch]⟩

theorem lifetime_cases (file : ConfigFile) (findings : Findings) (occurrences : List Occurrence)
    (manager : Manager κ₄ κ₆ τ) :
    ((course file findings occurrences manager).answer = .running ∧
        (lifetime file findings occurrences manager).answer = none) ∨
      ((course file findings occurrences manager).answer ≠ .running ∧
        (lifetime file findings occurrences manager).answer ≠ none ∧
        (lifetime file findings occurrences manager).state =
          (Manager.drop (course file findings occurrences manager).state).state) := by
  obtain ⟨hrunning, hanswer, -⟩ | hended :=
    finish_cases (course file findings occurrences manager).answer
      (course file findings occurrences manager).state
  · exact .inl ⟨hrunning, hanswer⟩
  · exact .inr hended

/-! ### What the channels keep -/

variable {keeps₄ : Channel .ipv4 κ₄ τ → Prop} {keeps₆ : Channel .ipv6 κ₆ τ → Prop}
  {manager : Manager κ₄ κ₆ τ}

theorem keeps_meet (hipv4 : Channel.Endures keeps₄) (hipv6 : Channel.Endures keeps₆)
    (hkeeps : manager.Keeps keeps₄ keeps₆) (file : ConfigFile) (occurrence : Occurrence) :
    (meet file occurrence manager).state.Keeps keeps₄ keeps₆ := by
  cases occurrence with
  | told signal => exact keeps_handle hipv4.toInvariant hipv6.toInvariant hkeeps file signal
  | ipv4 faults => exact ⟨hipv4.withFaults faults manager.ipv4 hkeeps.ipv4, hkeeps.ipv6⟩
  | ipv6 faults => exact ⟨hkeeps.ipv4, hipv6.withFaults faults manager.ipv6 hkeeps.ipv6⟩

theorem keeps_live (hipv4 : Channel.Endures keeps₄) (hipv6 : Channel.Endures keeps₆)
    (hkeeps : manager.Keeps keeps₄ keeps₆) (file : ConfigFile) (occurrences : List Occurrence) :
    (live file occurrences manager).state.Keeps keeps₄ keeps₆ := by
  induction occurrences generalizing manager with
  | nil => exact hkeeps
  | cons occurrence rest ih =>
      have hmet := keeps_meet hipv4 hipv6 hkeeps file occurrence
      obtain ⟨-, -, hstate⟩ | ⟨-, -, hstate⟩ := live_cons file occurrence rest manager
      · rw [hstate]
        exact ih hmet
      · rwa [hstate]

theorem keeps_course (hipv4 : Channel.Endures keeps₄) (hipv6 : Channel.Endures keeps₆)
    (hmade : ∀ config, Manager.Keeps keeps₄ keeps₆
      (.ofConfig config manager.ipv4.kernel manager.ipv6.kernel manager.ipv6.sysctl))
    (hkeeps : manager.Keeps keeps₄ keeps₆) (file : ConfigFile) (findings : Findings)
    (occurrences : List Occurrence) :
    (course file findings occurrences manager).state.Keeps keeps₄ keeps₆ := by
  have hlaunched :=
    keeps_launch hipv4.toInvariant hipv6.toInvariant hmade hkeeps file findings
  obtain ⟨-, -, hstate⟩ | ⟨-, -, hstate⟩ := course_cases file findings occurrences manager
  · rw [hstate]
    exact keeps_live hipv4 hipv6 hlaunched file occurrences
  · rwa [hstate]

end Daemon

end Multicast
