import Multicast.Daemon
import Multicast.Proofs.Except
import Multicast.Proofs.Manager.Invariant

/-!
# What a daemon does with its manager

A daemon makes its manager once, when it is launched, and from then on reloads it or stops it. Which
of these it does, and whether it goes on, follows from what it finds: whether the file gives a
configuration that is any good, whether there are interfaces, and how the start went.
-/

namespace Multicast

open Multicast.Action

variable {σ κ₄ κ₆ τ : Type}

namespace ConfigFile

def held? (file : ConfigFile) : Except OsError ByteArray → Option Config
  | .error err => if err.errorClass = .noEntry then some {} else none
  | .ok bytes => (String.fromUTF8? bytes).bind fun text => (file.read text).toOption

def accepted? (file : ConfigFile) (content : Except OsError ByteArray) : Option Config :=
  (file.held? content).filter fun config => config.validate.isOk

end ConfigFile

theorem Config.ofFile_eq (file : ConfigFile) (content : Except OsError ByteArray) (state : σ) :
    (ofFile file content state).answer.toOption = file.held? content ∧
      (ofFile file content state).state = state := by
  cases content with
  | error err =>
      by_cases hclass : err.errorClass = .noEntry
      · simp [ofFile, ConfigFile.held?, hclass, Except.toOption]
      · simp [ofFile, ConfigFile.held?, hclass, Except.toOption]
  | ok bytes =>
      cases htext : String.fromUTF8? bytes with
      | none => simp [ofFile, ConfigFile.held?, htext, Except.toOption]
      | some text =>
          cases hconfig : file.read text with
          | error cause => simp [ofFile, ConfigFile.held?, htext, hconfig, Except.toOption]
          | ok config => simp [ofFile, ConfigFile.held?, htext, hconfig, Except.toOption]

namespace Daemon

theorem loadConfig_cases (file : ConfigFile) (content : Except OsError ByteArray) (state : σ) :
    (loadConfig file content state).state = state ∧
      ((file.accepted? content = none ∧
          ∃ failure, (loadConfig file content state).answer = .error failure) ∨
        ∃ config, file.accepted? content = some config ∧
          (loadConfig file content state).answer = .ok config) := by
  obtain ⟨hanswer, hstate⟩ := Config.ofFile_eq file content state
  rw [ConfigFile.accepted?, ← hanswer]
  cases hfile : (Config.ofFile file content state).answer with
  | error cause => simp [loadConfig, hfile, hstate, Except.toOption]
  | ok config =>
      cases hvalid : config.validate with
      | error cause =>
          simp [loadConfig, hfile, hstate, hvalid, Except.toOption, Except.isOk, Except.toBool]
      | ok => simp [loadConfig, hfile, hstate, hvalid, Except.toOption, Except.isOk, Except.toBool]

theorem toOption_loadConfig (file : ConfigFile) (content : Except OsError ByteArray) (state : σ) :
    (loadConfig file content state).answer.toOption = file.accepted? content := by
  obtain ⟨-, ⟨hrejected, failure, hanswer⟩ | ⟨config, haccepted, hanswer⟩⟩ :=
    loadConfig_cases file content state
  · rw [hanswer, hrejected]
    rfl
  · rw [hanswer, haccepted]
    rfl

theorem startWith_cases (interfaces : Except DaemonError InterfaceTable) (doing : String)
    (start : InterfaceTable → Action (Manager κ₄ κ₆ τ) (Except DaemonError Summary))
    (manager : Manager κ₄ κ₆ τ) :
    ((∃ cause, interfaces = .error cause) ∧
        (startWith interfaces doing start manager).answer ≠ .running ∧
        (startWith interfaces doing start manager).state = manager) ∨
      ∃ table, interfaces = .ok table ∧
        ((startWith interfaces doing start manager).answer = .running ↔
          (start table manager).answer.isOk = true) ∧
        (startWith interfaces doing start manager).state = (start table manager).state := by
  cases interfaces with
  | error cause => exact .inl ⟨⟨cause, rfl⟩, by simp [startWith], rfl⟩
  | ok table =>
      refine .inr ⟨table, rfl, ?_⟩
      cases hstart : (start table manager).answer <;>
        simp [startWith, hstart, Except.isOk, Except.toBool]

variable [Kernel .ipv4 κ₄] [Kernel .ipv6 κ₆] [Sysctl τ]

theorem launch_cases (file : ConfigFile) (findings : Findings) (manager : Manager κ₄ κ₆ τ) :
    (file.accepted? findings.content = none ∧
        (launch file findings manager).answer ≠ .running ∧
        (launch file findings manager).state = manager) ∨
      ∃ config, file.accepted? findings.content = some config ∧
        let made := Manager.ofConfig config manager.ipv4.kernel manager.ipv6.kernel
          manager.ipv6.sysctl
        ((∃ cause, findings.interfaces = .error cause) ∧
            (launch file findings manager).answer ≠ .running ∧
            (launch file findings manager).state = made) ∨
          ∃ table, findings.interfaces = .ok table ∧
            ((launch file findings manager).answer = .running ↔
              (Manager.start table made).answer.isOk = true) ∧
            (launch file findings manager).state = (Manager.start table made).state := by
  obtain ⟨hsame, ⟨hrejected, failure, hanswer⟩ | ⟨config, haccepted, hanswer⟩⟩ :=
    loadConfig_cases file findings.content manager
  · exact .inl ⟨hrejected, by simp [launch, hanswer], by simp [launch, hanswer, hsame]⟩
  · refine .inr ⟨config, haccepted, ?_⟩
    have hlaunch : (launch file findings manager).answer =
          (startWith findings.interfaces "Failed initializing multicast routing" Manager.start
            (Manager.ofConfig config manager.ipv4.kernel manager.ipv6.kernel
              manager.ipv6.sysctl)).answer ∧
        (launch file findings manager).state =
          (startWith findings.interfaces "Failed initializing multicast routing" Manager.start
            (Manager.ofConfig config manager.ipv4.kernel manager.ipv6.kernel
              manager.ipv6.sysctl)).state := by
      simp [launch, hanswer, hsame]
    rw [hlaunch.1, hlaunch.2]
    exact startWith_cases _ _ _ _

theorem launch_of_accepted {file : ConfigFile} {findings : Findings} {config : Config}
    {table : InterfaceTable} (haccepted : file.accepted? findings.content = some config)
    (hinterfaces : findings.interfaces = .ok table) (manager : Manager κ₄ κ₆ τ) :
    let started := Manager.start table (.ofConfig config manager.ipv4.kernel manager.ipv6.kernel
      manager.ipv6.sysctl : Manager κ₄ κ₆ τ)
    ((launch file findings manager).answer = .running ↔ started.answer.isOk = true) ∧
      (launch file findings manager).state = started.state := by
  obtain ⟨hrejected, -⟩ | ⟨found, hfound, hcases⟩ := launch_cases file findings manager
  · rw [haccepted] at hrejected
    cases hrejected
  · obtain rfl : config = found := by simpa [haccepted] using hfound
    obtain ⟨⟨cause, herr⟩, -⟩ | ⟨others, hothers, hcase⟩ := hcases
    · rw [hinterfaces] at herr
      cases herr
    · obtain rfl : table = others := by simpa [hinterfaces] using hothers
      exact hcase

/-- A configuration that is no good is left aside; any other is the end for lack of interfaces, or
is reloaded. -/
theorem hangup_cases (file : ConfigFile) (findings : Findings) (manager : Manager κ₄ κ₆ τ) :
    (file.accepted? findings.content = none ∧
        (handle file (.hangup findings) manager).answer = .running ∧
        (handle file (.hangup findings) manager).state = manager) ∨
      ∃ config, file.accepted? findings.content = some config ∧
        (((∃ cause, findings.interfaces = .error cause) ∧
            (handle file (.hangup findings) manager).answer ≠ .running ∧
            (handle file (.hangup findings) manager).state = manager) ∨
          ∃ table, findings.interfaces = .ok table ∧
            ((handle file (.hangup findings) manager).answer = .running ↔
              (Manager.reload config table manager).answer.isOk = true) ∧
            (handle file (.hangup findings) manager).state =
              (Manager.reload config table manager).state) := by
  obtain ⟨hsame, ⟨hrejected, failure, hanswer⟩ | ⟨config, haccepted, hanswer⟩⟩ :=
    loadConfig_cases file findings.content manager
  · exact .inl ⟨hrejected, by simp [handle, reload, hanswer],
      by simp [handle, reload, hanswer, hsame]⟩
  · refine .inr ⟨config, haccepted, ?_⟩
    have hreload : (handle file (.hangup findings) manager).answer =
          (startWith findings.interfaces "Failed re-initializing multicast routing"
            (Manager.reload config) manager).answer ∧
        (handle file (.hangup findings) manager).state =
          (startWith findings.interfaces "Failed re-initializing multicast routing"
            (Manager.reload config) manager).state := by
      simp [handle, reload, hanswer, hsame]
    rw [hreload.1, hreload.2]
    exact startWith_cases _ _ _ _

omit [Sysctl τ] in
theorem finish_cases (status : Status) (manager : Manager κ₄ κ₆ τ) :
    (status = .running ∧ (finish status manager).answer = none ∧
        (finish status manager).state = manager) ∨
      (status ≠ .running ∧ (finish status manager).answer ≠ none ∧
        (finish status manager).state = (Manager.drop manager).state) := by
  cases status with
  | running => exact .inl ⟨rfl, rfl, rfl⟩
  | stopped => exact .inr ⟨by simp, by simp [finish], rfl⟩
  | failed failure => exact .inr ⟨by simp, by simp [finish], rfl⟩

/-! ### What the channels keep -/

variable {keeps₄ : Channel .ipv4 κ₄ τ → Prop} {keeps₆ : Channel .ipv6 κ₆ τ → Prop}
  {manager : Manager κ₄ κ₆ τ}

theorem keeps_launch (hipv4 : Channel.Invariant keeps₄) (hipv6 : Channel.Invariant keeps₆)
    (hmade : ∀ config, Manager.Keeps keeps₄ keeps₆
      (.ofConfig config manager.ipv4.kernel manager.ipv6.kernel manager.ipv6.sysctl))
    (hkeeps : manager.Keeps keeps₄ keeps₆) (file : ConfigFile) (findings : Findings) :
    (launch file findings manager).state.Keeps keeps₄ keeps₆ := by
  obtain ⟨-, -, hstate⟩ | ⟨config, -, ⟨-, -, hstate⟩ | ⟨table, -, -, hstate⟩⟩ :=
    launch_cases file findings manager
  · rwa [hstate]
  · rw [hstate]
    exact hmade config
  · rw [hstate]
    exact (hmade config).start hipv4 hipv6 table

theorem keeps_handle (hipv4 : Channel.Invariant keeps₄) (hipv6 : Channel.Invariant keeps₆)
    (hkeeps : manager.Keeps keeps₄ keeps₆) (file : ConfigFile) (signal : Signal) :
    (handle file signal manager).state.Keeps keeps₄ keeps₆ := by
  cases signal with
  | hangup findings =>
      obtain ⟨-, -, hstate⟩ | ⟨config, -, ⟨-, -, hstate⟩ | ⟨table, -, -, hstate⟩⟩ :=
        hangup_cases file findings manager
      · rwa [hstate]
      · rwa [hstate]
      · rw [hstate]
        exact hkeeps.reload hipv4 hipv6 config table
  | terminate => exact hkeeps.stop hipv4 hipv6
  | interrupt => exact hkeeps.stop hipv4 hipv6

end Daemon

end Multicast
