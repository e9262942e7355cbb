import Multicast.Config.Document
import Multicast.Interface.Samples
import Multicast.Proofs.Daemon.Course
import Multicast.Proofs.Manager.Standing

/-!
# A daemon runs the last good configuration

Each time a daemon is told to look again, it either leaves everything as it is, or gives everything
up and starts again with what it finds. So where it is depends only on the last time that it found
a good configuration: on what it found then, and on how the kernels failed then.
-/

namespace Multicast

open Multicast.Action Manager

variable {F : Family} {κ₄ κ₆ τ τ' : Type}

/-- What was found when a configuration was loaded, and how the kernels failed then. -/
structure Load where
  findings : Findings
  ipv4 : KernelFaults
  ipv6 : KernelFaults

/-- The last load of a good configuration, given the last one so far and how the kernels fail. -/
def Load.last (file : ConfigFile) : Load → KernelFaults → KernelFaults → List Occurrence → Load
  | load, _, _, [] => load
  | load, _, ipv6, .ipv4 faults :: rest => last file load faults ipv6 rest
  | load, ipv4, _, .ipv6 faults :: rest => last file load ipv4 faults rest
  | load, ipv4, ipv6, .told (.hangup findings) :: rest =>
    if (file.accepted? findings.content).isSome then
      last file ⟨findings, ipv4, ipv6⟩ ipv4 ipv6 rest
    else last file load ipv4 ipv6 rest
  | load, ipv4, ipv6, .told _ :: rest => last file load ipv4 ipv6 rest

def Manager.blank (ipv4 ipv6 : KernelFaults) (sysctl : τ) : Simulated τ :=
  .ofConfig {} { faults := ipv4 } { faults := ipv6 } sysctl

namespace Daemon

variable [Sysctl τ] [Sysctl τ']

/-- The manager is where a daemon is that is launched with the load, over kernels that fail as they
did then. -/
def Stands (file : ConfigFile) (sysctl : τ') (load : Load) (manager : Simulated τ) : Prop :=
  let fresh := launch file load.findings (blank load.ipv4 load.ipv6 sysctl)
  fresh.answer = .running ∧ SameStanding manager fresh.state

structure Follows (file : ConfigFile) (sysctl : τ') (load : Load) (ipv4 ipv6 : KernelFaults)
    (manager : Simulated τ) : Prop where
  reachable : manager.Reachable
  faults : manager.Keeps (fun channel => channel.kernel.faults = ipv4)
    (fun channel => channel.kernel.faults = ipv6)
  stands : Stands file sysctl load manager

variable {file : ConfigFile} {sysctl : τ} {sysctl' : τ'} {load : Load} {ipv4 ipv6 : KernelFaults}
  {manager : Simulated τ}

omit [Sysctl τ] in
theorem stands_of_started {findings : Findings} {config : Config} {table : InterfaceTable}
    (haccepted : file.accepted? findings.content = some config)
    (hinterfaces : findings.interfaces = .ok table)
    {started : Outcome (Simulated τ') (Except DaemonError Summary)}
    (hstart :
      start table (.ofConfig config { faults := ipv4 } { faults := ipv6 } sysctl') = started)
    (hok : started.answer.isOk = true) (hstanding : SameStanding manager started.state) :
    Stands file sysctl' ⟨findings, ipv4, ipv6⟩ manager := by
  obtain ⟨hrunning, hstate⟩ :=
    launch_of_accepted haccepted hinterfaces (blank ipv4 ipv6 sysctl')
  subst hstart
  refine ⟨hrunning.mpr hok, ?_⟩
  change SameStanding manager (launch file findings (blank ipv4 ipv6 sysctl')).state
  rw [hstate]
  exact hstanding

theorem follows_launch {findings : Findings}
    (hrunning : (launch file findings (blank ipv4 ipv6 sysctl)).answer = .running) :
    Follows file sysctl' ⟨findings, ipv4, ipv6⟩ ipv4 ipv6
      (launch file findings (blank ipv4 ipv6 sysctl)).state := by
  have hfaults : (launch file findings (blank ipv4 ipv6 sysctl)).state.Keeps
      (fun channel => channel.kernel.faults = ipv4) (fun channel => channel.kernel.faults = ipv6) :=
    keeps_launch (Channel.invariant_faults ipv4) (Channel.invariant_faults ipv6)
      (fun _ => ⟨rfl, rfl⟩) ⟨rfl, rfl⟩ file findings
  obtain ⟨-, hended, -⟩ | ⟨config, haccepted, ⟨-, hended, -⟩ | ⟨table, hinterfaces, hok, hstate⟩⟩ :=
    launch_cases file findings (blank ipv4 ipv6 sysctl)
  · exact absurd hrunning hended
  · exact absurd hrunning hended
  · have hnew : Twins
        (.ofConfig config { faults := ipv4 } { faults := ipv6 } sysctl : Simulated τ)
        (.ofConfig config { faults := ipv4 } { faults := ipv6 } sysctl' : Simulated τ') :=
      ⟨rfl, rfl, Channel.alike_fresh .., Channel.alike_fresh ..⟩
    obtain ⟨hanswer, htwins⟩ := relates_start table _ _ hnew
    refine ⟨?_, hfaults, stands_of_started haccepted hinterfaces rfl ?_ ?_⟩
    · refine ⟨.ofConfig config { faults := ipv4 } { faults := ipv6 } sysctl,
        ⟨⟨ipv4, sysctl, none, rfl⟩, ipv6, sysctl, _, rfl⟩, [.start table], ?_⟩
      rw [hstate]
      rfl
    · rw [← hanswer]
      exact hok.mp hrunning
    · rw [hstate]
      exact htwins.sameStanding

theorem Follows.hangup (hfollows : Follows file sysctl' load ipv4 ipv6 manager)
    {findings : Findings} (hrunning : (handle file (.hangup findings) manager).answer = .running) :
    Follows file sysctl'
      (if (file.accepted? findings.content).isSome then ⟨findings, ipv4, ipv6⟩ else load) ipv4 ipv6
      (handle file (.hangup findings) manager).state := by
  have hfaults := keeps_handle (Channel.invariant_faults ipv4) (Channel.invariant_faults ipv6)
    hfollows.faults file (.hangup findings)
  obtain ⟨hrejected, -, hstate⟩ | ⟨config, haccepted, ⟨-, hended, -⟩ |
    ⟨table, hinterfaces, hok, hstate⟩⟩ := hangup_cases file findings manager
  · rw [hstate, hrejected]
    exact hfollows
  · exact absurd hrunning hended
  · obtain ⟨hanswer, hstanding⟩ := hfollows.reachable.reload_stands config table sysctl'
    rw [hfollows.faults.ipv4, hfollows.faults.ipv6] at hanswer hstanding
    rw [haccepted, Option.isSome_some, if_pos rfl]
    refine ⟨?_, hfaults, stands_of_started haccepted hinterfaces rfl ?_ ?_⟩
    · rw [hstate]
      exact hfollows.reachable.perform (.reload config table)
    · rw [← hanswer]
      exact hok.mp hrunning
    · rw [hstate]
      exact hstanding

theorem Follows.failIPv4 (hfollows : Follows file sysctl' load ipv4 ipv6 manager)
    (faults : KernelFaults) :
    Follows file sysctl' load faults ipv6 (meet file (.ipv4 faults) manager).state where
  reachable := hfollows.reachable.perform (.ipv4 (.inject faults))
  faults := ⟨rfl, hfollows.faults.ipv6⟩
  stands := ⟨hfollows.stands.1,
    { hfollows.stands.2 with ipv4 := { hfollows.stands.2.ipv4 with } }⟩

theorem Follows.failIPv6 (hfollows : Follows file sysctl' load ipv4 ipv6 manager)
    (faults : KernelFaults) :
    Follows file sysctl' load ipv4 faults (meet file (.ipv6 faults) manager).state where
  reachable := hfollows.reachable.perform (.ipv6 (.inject faults))
  faults := ⟨hfollows.faults.ipv4, rfl⟩
  stands := ⟨hfollows.stands.1,
    { hfollows.stands.2 with ipv6 := { hfollows.stands.2.ipv6 with } }⟩

theorem Follows.live (hfollows : Follows file sysctl' load ipv4 ipv6 manager)
    {occurrences : List Occurrence}
    (hrunning : (live file occurrences manager).answer = .running) :
    Stands file sysctl' (load.last file ipv4 ipv6 occurrences)
      (Daemon.live file occurrences manager).state := by
  -- each occurrence may change the load that counts, or how the kernels fail from then on
  induction occurrences generalizing load ipv4 ipv6 manager with
  | nil => exact hfollows.stands
  | cons occurrence rest ih =>
      obtain ⟨hmet, hanswer, hstate⟩ | ⟨hended, hanswer, -⟩ :=
        live_cons file occurrence rest manager
      · rw [hanswer] at hrunning
        rw [hstate]
        cases occurrence with
        | ipv4 faults => exact ih (hfollows.failIPv4 faults) hrunning
        | ipv6 faults => exact ih (hfollows.failIPv6 faults) hrunning
        | told signal =>
            cases signal with
            | hangup findings =>
                have hafter := ih (hfollows.hangup hmet) hrunning
                rw [Load.last]
                split
                · rwa [if_pos ‹_›] at hafter
                · rwa [if_neg ‹_›] at hafter
            | terminate => cases hmet
            | interrupt => cases hmet
      · rw [hanswer] at hrunning
        exact absurd hrunning hended

/-- **A daemon runs the last good configuration.** A file that is no good leaves all of its manager
as it is; whatever else happens, the manager holds what it holds right after a launch with the last
load that was accepted. -/
theorem runs_last_good [Kernel .ipv4 κ₄] [Kernel .ipv6 κ₆] (file : ConfigFile) :
    (∀ (findings : Findings) (manager : Manager κ₄ κ₆ τ),
      (loadConfig file findings.content manager).answer.toOption = file.accepted? findings.content ∧
        (file.accepted? findings.content = none →
          (handle file (.hangup findings) manager).answer = .running ∧
            (handle file (.hangup findings) manager).state = manager)) ∧
      ∀ (findings : Findings) (occurrences : List Occurrence) (ipv4 ipv6 : KernelFaults)
        (sysctl : τ) (sysctl' : τ'),
        let daemon := course file findings occurrences (blank ipv4 ipv6 sysctl)
        let load := Load.last file ⟨findings, ipv4, ipv6⟩ ipv4 ipv6 occurrences
        let fresh := launch file load.findings (blank load.ipv4 load.ipv6 sysctl')
        daemon.answer = .running →
          fresh.answer = .running ∧ SameStanding daemon.state fresh.state := by
  constructor
  · intro findings manager
    refine ⟨toOption_loadConfig file findings.content manager, fun hrejected => ?_⟩
    obtain ⟨-, hanswer, hstate⟩ | ⟨config, haccepted, -⟩ := hangup_cases file findings manager
    · exact ⟨hanswer, hstate⟩
    · rw [hrejected] at haccepted
      cases haccepted
  · intro findings occurrences ipv4 ipv6 sysctl sysctl' daemon load fresh hrunning
    obtain ⟨hlaunched, hanswer, hstate⟩ | ⟨hended, hanswer, -⟩ :=
      course_cases file findings occurrences (blank ipv4 ipv6 sysctl)
    · have hlive : (live file occurrences
          (launch file findings (blank ipv4 ipv6 sysctl)).state).answer = .running :=
        hanswer.symm.trans hrunning
      have hfollows : Follows file sysctl' ⟨findings, ipv4, ipv6⟩ ipv4 ipv6
          (launch file findings (blank ipv4 ipv6 sysctl)).state := follows_launch hlaunched
      have hstands := hfollows.live hlive
      rwa [← hstate] at hstands
    · exact absurd (hanswer.symm.trans hrunning) hended

/-- Launched on three interfaces, a daemon looks again while there is one of them and IPv4 cannot be
opened, and then in vain. -/
theorem unreadable_kept :
    let file := ConfigFile.toml "mroutemgrd.toml"
    let found := Findings.unconfigured (.many 1)
    let unreadable := { found with content := .error (.errno Errno.access) }
    let manager : Simulated SwitchFile := (launch file found (blank {} {} .missing)).state
    let occurrences := [.ipv4 { openSocket := some 93 }, .told (.hangup found), .ipv4 {},
      .told (.hangup unreadable)]
    let daemon := course file (.unconfigured .basic) occurrences (blank {} {} SwitchFile.missing)
    let fresh := launch file found (blank { openSocket := some 93 } {} SwitchFile.missing)
    file.accepted? unreadable.content = none ∧ daemon.answer = .running ∧
      (handle file (.hangup unreadable) manager).state = manager ∧
      fresh.state.ipv4.phase = .disabled ∧ fresh.state.ipv6.slots.size = 1 ∧
      SameStanding daemon.state fresh.state := by
  intro file found unreadable manager occurrences daemon fresh
  have hrejected : file.accepted? unreadable.content = none := rfl
  have hrunning : daemon.answer = .running := by decide +kernel
  obtain ⟨hkept, hlast⟩ := @runs_last_good (SimulatedKernel .ipv4) (SimulatedKernel .ipv6)
    SwitchFile SwitchFile _ _ _ _ file
  exact ⟨hrejected, hrunning, ((hkept unreadable manager).2 hrejected).2, by decide +kernel,
    by decide +kernel, (hlast _ occurrences {} {} .missing .missing hrunning).2⟩

end Daemon

end Multicast
