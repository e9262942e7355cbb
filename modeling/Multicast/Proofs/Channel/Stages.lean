import Multicast.Proofs.Channel.Operation

/-!
# The stages of a kernel

A channel opens the socket of its kernel only while it holds none, uses it only once it is claimed,
and closes it when the claim is refused or given up. So a property for each stage that these calls
carry from stage to stage, over any kernel, holds as long as a manager works on the channel: the
kernel of a channel without a socket is idle, and the kernel of one that holds a socket is claimed.
-/

namespace Multicast

open Multicast.Action

variable {F : Family} {κ τ : Type}

/-- What holds of a kernel without a socket, with one that is open, and with one that is claimed, is
carried along by the calls that are made in each stage. -/
structure Kernel.Stages [Kernel F κ] (idle opened claimed : κ → Prop) : Prop where
  openSocket_ok : ∀ kernel, idle kernel → (Kernel.openSocket kernel).1 = .ok () →
    opened (Kernel.openSocket kernel).2
  openSocket_error : ∀ kernel cause, idle kernel → (Kernel.openSocket kernel).1 = .error cause →
    idle (Kernel.openSocket kernel).2
  claim_ok : ∀ kernel, opened kernel → (Kernel.claim kernel).1 = .ok () →
    claimed (Kernel.claim kernel).2
  claim_error : ∀ kernel cause, opened kernel → (Kernel.claim kernel).1 = .error cause →
    idle (Kernel.close (Kernel.claim kernel).2)
  addInterface : ∀ slot iface kernel, claimed kernel →
    claimed (Kernel.addInterface slot iface kernel).2
  apply : ∀ (call : RouteCall F) kernel, claimed kernel → claimed (call.apply kernel)
  giveUp : ∀ kernel, claimed kernel → idle (Kernel.close (Kernel.release kernel).2)

namespace Channel

/-- The kernel is in the stage that the channel takes it to be in. -/
structure Staged (idle claimed : κ → Prop) (channel : Channel F κ τ) : Prop where
  phase_eq_enabled_iff : channel.phase = .enabled ↔ channel.holdsSocket = true
  idle : channel.holdsSocket = false → idle channel.kernel
  claimed : channel.holdsSocket = true → claimed channel.kernel

variable {idle opened claimed : κ → Prop} {channel : Channel F κ τ}

theorem staged_new {kernel : κ} (hidle : idle kernel) (sysctl : τ) (path : Option String) :
    Staged idle claimed ({ kernel, sysctl, forwardingSwitch := path } : Channel F κ τ) where
  phase_eq_enabled_iff := by simp
  idle := fun _ => hidle
  claimed := fun hholds => absurd hholds (by simp)

theorem Staged.withKernel (hstaged : channel.Staged idle claimed) {kernel : κ}
    (hidle : idle channel.kernel → idle kernel)
    (hclaimed : claimed channel.kernel → claimed kernel) :
    Staged idle claimed { channel with kernel } where
  phase_eq_enabled_iff := hstaged.phase_eq_enabled_iff
  idle := fun hholds => hidle (hstaged.idle hholds)
  claimed := fun hholds => hclaimed (hstaged.claimed hholds)

theorem Staged.holdsSocket_of_ne (hstaged : channel.Staged idle claimed)
    (hphase : channel.phase ≠ .enabled) : channel.holdsSocket = false := by
  rw [← Bool.not_eq_true, ← hstaged.phase_eq_enabled_iff]
  exact hphase

theorem staged_of_disabled (hphase : channel.phase = .disabled)
    (hholds : channel.holdsSocket = false) (hidle : idle channel.kernel) :
    channel.Staged idle claimed where
  phase_eq_enabled_iff := by simp [hphase, hholds]
  idle := fun _ => hidle
  claimed := by simp [hholds]

variable [Kernel F κ] [Sysctl τ]

omit [Sysctl τ] in
theorem claimed_registerInterface (hstages : Kernel.Stages idle opened claimed)
    (iface : Interface) (hclaimed : claimed channel.kernel) :
    claimed (registerInterface iface channel).state.kernel := by
  obtain hstate | ⟨slot, annotated, hstate⟩ := state_registerInterface iface channel
  · rwa [hstate]
  · rw [hstate]
    exact hstages.addInterface slot annotated channel.kernel hclaimed

theorem staged_setUp (hstages : Kernel.Stages idle opened claimed) (table : InterfaceTable)
    (hclaimed : claimed channel.kernel) : (setUp table channel).state.Staged idle claimed := by
  have hreadied : claimed channel.readied.kernel := by rwa [readied_eq]
  have hregistered : claimed (Action.each registerInterface table.entries
      channel.readied).state.kernel :=
    Action.state_each_of_forall (fun after : Channel F κ τ => claimed after.kernel)
      (fun iface _ _ hbefore => claimed_registerInterface hstages iface hbefore) hreadied
  rw [state_setUp]
  exact ⟨by simp, by simp, fun _ => hregistered⟩

theorem Staged.enable (hstages : Kernel.Stages idle opened claimed)
    (hstaged : channel.Staged idle claimed) (table : InterfaceTable) :
    (Channel.enable table channel).state.Staged idle claimed := by
  obtain ⟨-, -, hstate⟩ | ⟨hphase, err, herr, -, hstate⟩ | ⟨hphase, hok, -, hstate⟩ :=
    enable_cases table channel
  · rwa [hstate]
  -- the claim failed, with the socket never open or closed again
  · have hholds := hstaged.holdsSocket_of_ne hphase
    have hidle := hstaged.idle hholds
    obtain ⟨cause, hopen, -, hclaim⟩ | ⟨cause, hopen, hrefused, -, hclaim⟩ | ⟨-, -, hok, -⟩ :=
      claim_cases { channel with phase := .enabling }
    · rw [hstate, hclaim]
      exact staged_of_disabled rfl hholds (hstages.openSocket_error _ cause hidle hopen)
    · rw [hstate, hclaim]
      have hopened := hstages.openSocket_ok _ hidle hopen
      exact staged_of_disabled rfl hholds (hstages.claim_error _ cause hopened hrefused)
    · rw [hok] at herr
      cases herr
  · have hidle := hstaged.idle (hstaged.holdsSocket_of_ne hphase)
    obtain ⟨cause, -, herr, -⟩ | ⟨cause, -, -, herr, -⟩ | ⟨hopen, hclaimed, -, hclaim⟩ :=
      claim_cases { channel with phase := .enabling }
    · rw [hok] at herr
      cases herr
    · rw [hok] at herr
      cases herr
    · rw [hstate, hclaim]
      have hopened := hstages.openSocket_ok _ hidle hopen
      exact staged_setUp hstages table (hstages.claim_ok _ hopened hclaimed)

omit [Sysctl τ] in
theorem Staged.disable (hstages : Kernel.Stages idle opened claimed)
    (hstaged : channel.Staged idle claimed) :
    (Channel.disable channel).state.Staged idle claimed ∧
      (Channel.disable channel).state.holdsSocket = false := by
  rw [state_disable]
  by_cases hholds : channel.holdsSocket = true
  · rw [if_pos hholds]
    exact ⟨staged_of_disabled rfl rfl (hstages.giveUp _ (hstaged.claimed hholds)), rfl⟩
  · rw [if_neg hholds]
    rw [Bool.not_eq_true] at hholds
    exact ⟨staged_of_disabled rfl hholds (hstaged.idle hholds), hholds⟩

omit [Sysctl τ] in
theorem Staged.add (hstages : Kernel.Stages idle opened claimed)
    (hstaged : channel.Staged idle claimed) (route : Route F) :
    (Channel.add route channel).state.Staged idle claimed := by
  rw [state_add]
  by_cases hholds : channel.holdsSocket = true
  · have hclaimed : claimed (channel.routed (.add route)).kernel :=
      List.foldlRecOn _ _ (hstaged.claimed hholds) fun kernel hbefore call _ =>
        hstages.apply call kernel hbefore
    rw [if_pos hholds]
    exact ⟨hstaged.phase_eq_enabled_iff, by simp [routed, hholds], fun _ => hclaimed⟩
  · rwa [if_neg hholds]

theorem invariant_staged (hstages : Kernel.Stages idle opened claimed) :
    Channel.Invariant (Staged (τ := τ) idle claimed) where
  enable := fun table _ hstaged => hstaged.enable hstages table
  disable := fun _ hstaged => (hstaged.disable hstages).1
  add := fun route _ hstaged => hstaged.add hstages route

omit [Sysctl τ] in
theorem Staged.idle_drop (hstages : Kernel.Stages idle opened claimed)
    (hstaged : channel.Staged idle claimed) : idle (Channel.drop channel).state.kernel := by
  rw [state_drop]
  by_cases hholds : channel.holdsSocket = true
  · obtain ⟨hafter, hclosed⟩ := hstaged.disable hstages
    rw [if_pos hholds]
    exact hafter.idle hclosed
  · rw [if_neg hholds]
    exact hstaged.idle (by simpa using hholds)

end Channel

end Multicast
