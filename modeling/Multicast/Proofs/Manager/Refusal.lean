import Multicast.Interface.Samples
import Multicast.Proofs.Manager.Independence

/-!
# Families that are refused

A channel that cannot be enabled says why, and the class of the system error behind it can be read
off the reason. Calls to the kernel are all that remains of the attempt. The interfaces keep the
slots recorded on them: without an answer there is nothing to put in their place.
-/

namespace Multicast

open Multicast.Action

variable {F : Family} {τ : Type}

namespace Channel

theorem openFailure_eq (F : Family) (cause : OsError) :
    openFailure F cause =
      if cause.errorClass = .protoNotAvailable then .unavailable F.name
      else .fatal F.name "socket" cause := by
  unfold openFailure
  cases cause.errorClass <;> rfl

theorem claimFailure_eq (F : Family) (cause : OsError) :
    claimFailure F cause =
      if cause.errorClass = .addrInUse then .alreadyOwned F.name
      else if cause.errorClass = .notSupported then .notSupported F.name F.calls.init
      else .fatal F.name F.calls.init cause := by
  unfold claimFailure
  cases cause.errorClass <;> rfl

/-! A reason without the system error in it is given for one class of errors only. -/

theorem errorClass?_openFailure (F : Family) (cause : OsError) :
    (openFailure F cause).errorClass? = some cause.errorClass := by
  rw [openFailure_eq]
  split
  case isTrue hclass => rw [hclass]; rfl
  case isFalse => rfl

theorem errorClass?_claimFailure (F : Family) (cause : OsError) :
    (claimFailure F cause).errorClass? = some cause.errorClass := by
  rw [claimFailure_eq]
  split
  case isTrue hclass => rw [hclass]; rfl
  case isFalse =>
    split
    case isTrue hclass => rw [hclass]; rfl
    case isFalse => rfl

variable [Sysctl τ]

/-- Enabling is refused for a reason, and leaves nothing but calls. -/
structure Refuses (table : InterfaceTable) (channel : Channel F (SimulatedKernel F) τ)
    (err : RoutingError) (calls : List (KernelCall F)) : Prop where
  answer : (enable table channel).answer = .error err
  state : (enable table channel).state =
    { channel with kernel := { channel.kernel with calls := channel.kernel.calls ++ calls } }
  interfaces : ∀ manager : Manager.Simulated τ, manager.channel F = channel →
    manager.interfaces = table → (Manager.enableOne F manager).state.interfaces = table

variable {channel : Channel F (SimulatedKernel F) τ} {table : InterfaceTable}

theorem refuses_of_answer {err : RoutingError} {calls : List (KernelCall F)}
    (hanswer : (enable table channel).answer = .error err)
    (hstate : (enable table channel).state =
      { channel with kernel := { channel.kernel with calls := channel.kernel.calls ++ calls } }) :
    Refuses table channel err calls := by
  refine ⟨hanswer, hstate, ?_⟩
  rintro manager rfl rfl
  rw [(Manager.enableOne_self F manager).2, Manager.answer_enableFamily, hanswer]
  dsimp only
  split
  · split <;> rfl
  · rfl

theorem refuses_of_enabled (henabled : channel.phase = .enabled) :
    Refuses table channel (.alreadyEnabled F.name) [] := by
  obtain ⟨-, hanswer, hstate⟩ | ⟨hphase, -⟩ | ⟨hphase, -⟩ := Channel.enable_cases table channel
  · exact refuses_of_answer hanswer (by rw [hstate, List.append_nil])
  · exact absurd henabled hphase
  · exact absurd henabled hphase

theorem refuses_of_openSocket (hdisabled : channel.phase = .disabled) {errno : Errno}
    (hopen : channel.kernel.faults.openSocket = some errno) :
    Refuses table channel (openFailure F (.errno errno)) [.openSocket] := by
  obtain ⟨hphase, -⟩ | ⟨-, cause, hcause, hanswer, hstate⟩ | ⟨-, -, hnone, -⟩ | ⟨-, hnone, -⟩ :=
    enable_cases_simulated table channel
  · simp [hdisabled] at hphase
  · obtain rfl : errno = cause := Option.some.inj (hopen.symm.trans hcause)
    exact refuses_of_answer hanswer (by rw [hstate, ← hdisabled]; rfl)
  · simp [hopen] at hnone
  · simp [hopen] at hnone

/-- Closing the socket forgets nothing, since a disabled channel left nothing to forget. -/
theorem Lifecycle.refuses_of_init (hlife : channel.Lifecycle)
    (hdisabled : channel.phase = .disabled) (hopen : channel.kernel.faults.openSocket = none)
    {errno : Errno} (hinit : channel.kernel.faults.init = some errno) :
    Refuses table channel (claimFailure F (.errno errno)) [.openSocket, .init, .close] := by
  have hidle := hlife.idle_of_ne (by simp [hdisabled])
  obtain ⟨hphase, -⟩ | ⟨-, cause, hcause, -⟩ | ⟨-, cause, -, hcause, hanswer, hstate⟩ |
    ⟨-, -, hnone, -⟩ := enable_cases_simulated table channel
  · simp [hdisabled] at hphase
  · simp [hopen] at hcause
  · obtain rfl : errno = cause := Option.some.inj (hinit.symm.trans hcause)
    exact refuses_of_answer hanswer
      (by rw [hstate, ← hdisabled, ← hidle.cache, ← hidle.registered])
  · simp [hinit] at hnone

/-- **Enabling fails without a trace:** it leaves nothing but calls, an enabled channel makes none,
and the reason has the class of the kernel's error. -/
theorem enable_refused (hreachable : channel.Reachable) (table : InterfaceTable) :
    (channel.phase = .enabled → Refuses table channel (.alreadyEnabled F.name) []) ∧
      (channel.phase = .disabled → ∀ errno, channel.kernel.faults.openSocket = some errno →
        ∃ err, Refuses table channel err [.openSocket] ∧
          err.errorClass? = some (.ofErrno errno) ∧
          err = if ErrorClass.ofErrno errno = .protoNotAvailable then .unavailable F.name
            else .fatal F.name "socket" (.errno errno)) ∧
      (channel.phase = .disabled → channel.kernel.faults.openSocket = none →
        ∀ errno, channel.kernel.faults.init = some errno →
          ∃ err, Refuses table channel err [.openSocket, .init, .close] ∧
            err.errorClass? = some (.ofErrno errno) ∧
            err = if ErrorClass.ofErrno errno = .addrInUse then .alreadyOwned F.name
              else if ErrorClass.ofErrno errno = .notSupported then
                .notSupported F.name F.calls.init
              else .fatal F.name F.calls.init (.errno errno)) := by
  refine ⟨refuses_of_enabled, ?_, ?_⟩
  · intro hdisabled errno hopen
    exact ⟨_, refuses_of_openSocket hdisabled hopen, errorClass?_openFailure F (.errno errno),
      openFailure_eq F (.errno errno)⟩
  · intro hdisabled hopen errno hinit
    exact ⟨_, hreachable.lifecycle.refuses_of_init hdisabled hopen hinit,
      errorClass?_claimFailure F (.errno errno), claimFailure_eq F (.errno errno)⟩

/-- A channel that was enabled and given up, over a kernel that fails in some way by now. -/
def givenUp (faults : KernelFaults) : Channel .ipv6 (SimulatedKernel .ipv6) RecordingSysctl :=
  (run [.enable .basic, .disable, .inject faults] (fresh {} {} (some "/a"))).state

def stillEnabled : Channel .ipv6 (SimulatedKernel .ipv6) RecordingSysctl :=
  (run [.enable .basic, .inject { init := some 98 }] (fresh {} {} (some "/a"))).state

theorem givenUp_refused :
    (stillEnabled.phase = .enabled ∧
        Refuses .basic stillEnabled (.alreadyEnabled "IPv6") []) ∧
      ((givenUp { openSocket := some 97 }).phase = .disabled ∧
        Refuses .basic (givenUp { openSocket := some 97 }) (.unavailable "IPv6") [.openSocket]) ∧
      ((givenUp { init := some 98 }).phase = .disabled ∧
        Refuses .basic (givenUp { init := some 98 }) (.alreadyOwned "IPv6")
          [.openSocket, .init, .close]) ∧
      ((givenUp { init := some 22 }).phase = .disabled ∧
        Refuses .basic (givenUp { init := some 22 }) (.fatal "IPv6" "MRT6_INIT" (.errno 22))
          [.openSocket, .init, .close]) := by
  have hreachable : ∀ faults, (givenUp faults).Reachable :=
    fun faults => ⟨{}, {}, some "/a", _, rfl⟩
  have hreachable' : stillEnabled.Reachable := ⟨{}, {}, some "/a", _, rfl⟩
  have henabled : stillEnabled.phase = .enabled := by decide +kernel
  have hunopened : (givenUp { openSocket := some 97 }).phase = .disabled := by decide +kernel
  have howned : (givenUp { init := some 98 }).phase = .disabled := by decide +kernel
  have hunknown : (givenUp { init := some 22 }).phase = .disabled := by decide +kernel
  obtain ⟨_, hfirst, -, rfl⟩ := (enable_refused (hreachable _) .basic).2.1 hunopened 97 rfl
  obtain ⟨_, hsecond, -, rfl⟩ := (enable_refused (hreachable _) .basic).2.2 howned rfl 98 rfl
  obtain ⟨_, hthird, -, rfl⟩ := (enable_refused (hreachable _) .basic).2.2 hunknown rfl 22 rfl
  exact ⟨⟨henabled, (enable_refused hreachable' .basic).1 henabled⟩, ⟨hunopened, hfirst⟩,
    ⟨howned, hsecond⟩, hunknown, hthird⟩

end Channel

end Multicast
