import Multicast.Channel
import Multicast.Proofs.Registry.Operation
import Multicast.Proofs.Reporting

/-!
# What a channel reports

Every call to the kernel that fails, and every failed write to a switch for another reason than
permission, is reported: at once, or by whoever gets the answer that the claim was refused.
-/

namespace Multicast

open Multicast.Action

variable {F : Family} {κ τ α : Type}

def failure : Except OsError Unit → Nat
  | .ok () => 0
  | .error _ => 1

/-- One for an error other than a lack of permission. -/
def writeFailure : Except OsError Unit → Nat
  | .ok () => 0
  | .error cause => if cause = .errno Errno.access then 0 else 1

/-- The kernel's failed calls are counted. -/
structure Kernel.Counts [Kernel F κ] (cost : κ → Nat) : Prop where
  addRoute (route : Route F) (kernel : κ) :
    cost (RouteSocket.addRoute route kernel).2 =
      cost kernel + failure (RouteSocket.addRoute route kernel).1
  delRoute (route : Route F) (kernel : κ) :
    cost (RouteSocket.delRoute route kernel).2 =
      cost kernel + failure (RouteSocket.delRoute route kernel).1
  openSocket (kernel : κ) :
    cost (Kernel.openSocket kernel).2 = cost kernel + failure (Kernel.openSocket kernel).1
  claim (kernel : κ) : cost (Kernel.claim kernel).2 = cost kernel + failure (Kernel.claim kernel).1
  release (kernel : κ) :
    cost (Kernel.release kernel).2 = cost kernel + failure (Kernel.release kernel).1
  addInterface (slot : SlotIndex) (iface : Interface) (kernel : κ) :
    cost (Kernel.addInterface slot iface kernel).2 =
      cost kernel + failure (Kernel.addInterface slot iface kernel).1
  close (kernel : κ) : cost (Kernel.close kernel) = cost kernel

def Sysctl.Counts [Sysctl τ] (cost : τ → Nat) : Prop :=
  ∀ path value sysctl, cost (Sysctl.setBool path value sysctl).2 =
    cost sysctl + writeFailure (Sysctl.setBool path value sysctl).1

section Routes

variable [Kernel F κ] {cost : κ → Nat} (hcounts : Kernel.Counts cost)

include hcounts

theorem Route.reports_install (route : Route F) : Reports cost route.install := by
  refine .bind (.log _) fun _ => .bind (.call (hcounts.addRoute route)) fun added => ?_
  cases added with
  | ok => exact .nothing _
  | error cause => exact .bind (.alarm rfl) fun _ => .nothing _

theorem Route.reports_uninstall (route : Route F) : Reports cost route.uninstall := by
  refine .bind (.log _) fun _ => .bind (.call (hcounts.delRoute route)) fun deleted => ?_
  cases deleted with
  | ok => exact .nothing _
  | error cause => exact .bind (.alarm rfl) fun _ => .nothing _

namespace Registry

theorem reports_add (route : Route F) :
    Reports (fun pair : Registry F × κ => cost pair.2) (Registry.add route) := by
  unfold Registry.add
  split
  · exact .bind (.log _) fun _ => .bind (.onFst _) fun _ =>
      .nothing _
  · exact .onSnd (route.reports_install hcounts)

theorem reports_resolve (flow : Flow F) :
    Reports (fun pair : Registry F × κ => cost pair.2) (resolve flow) := by
  refine .bind (.read _) fun template => ?_
  cases template with
  | none => exact .bind (.log _) fun _ => .nothing _
  | some template =>
      refine .bind (.onFst _) fun _ => ?_
      exact .onSnd (Route.reports_install hcounts _)

theorem reports_dropTemplates (group : F.Addr) (inbound : SlotIndex) :
    Reports (fun pair : Registry F × κ => cost pair.2) (dropTemplates group inbound) := by
  refine .bind (.read _) fun registry => ?_
  split
  · refine .bind (.onSnd (.each (Route.reports_uninstall hcounts) _)) fun _ => ?_
    exact .onFst _
  · exact .nothing _

theorem reports_remove (route : Route F) :
    Reports (fun pair : Registry F × κ => cost pair.2) (remove route) := by
  unfold remove
  split
  · refine .bind (reports_dropTemplates hcounts _ _) fun _ => ?_
    exact .onSnd (route.reports_uninstall hcounts)
  · exact .onSnd (route.reports_uninstall hcounts)

theorem Operation.reports_perform (operation : Operation F) :
    Reports (fun pair : Registry F × κ => cost pair.2) operation.perform := by
  cases operation with
  | add route => exact reports_add hcounts route
  | remove route => exact reports_remove hcounts route
  | resolve flow => exact reports_resolve hcounts flow
  | clear => exact .bind (.onFst _) fun _ => .nothing _

end Registry

end Routes

namespace Channel

def cost (onKernel : κ → Nat) (onSysctl : τ → Nat) (channel : Channel F κ τ) : Nat :=
  onKernel channel.kernel + onSysctl channel.sysctl

/-- A fatal failure is left to whoever gets the answer. -/
def fatalDue : Except RoutingError α → Nat
  | .ok _ => 0
  | .error err => if err.isFatal then 1 else 0

variable {onKernel : κ → Nat} {onSysctl : τ → Nat}

theorem owes_kernelCall {step : κ → Except OsError Unit × κ}
    (hstep : ∀ kernel, onKernel (step kernel).2 = onKernel kernel + failure (step kernel).1) :
    Owes (cost (F := F) onKernel onSysctl) 0 failure (kernelCall step) := by
  have hcall : Owes onKernel 0 failure (Action.call step) := .call hstep
  refine .on (fun after channel => ?_) hcall
  simp only [cost]
  omega

theorem reports_onSlots (action : Action SlotTable α) :
    Reports (cost (F := F) onKernel onSysctl) (onSlots action) :=
  .on (fun _ _ => rfl) (.free action)

section Kernels

variable [Kernel F κ] (hkernel : Kernel.Counts onKernel)

include hkernel

/-- A claim is refused with a warning, unless the failure is fatal. -/
theorem owes_claim : Owes (cost onKernel onSysctl) 0 fatalDue (claim (F := F)) := by
  refine .bind (owes_kernelCall hkernel.openSocket) fun opened => ?_
  cases opened with
  | error cause =>
      dsimp only
      split
      · exact .bind (.alarm rfl) fun _ => .pure (Nat.le_refl 0)
      · exact .pure (Nat.le_refl 1)
  | ok =>
      refine .bind (owes_kernelCall hkernel.claim) fun claimed => ?_
      cases claimed with
      | ok => exact .pure (Nat.le_refl 0)
      | error cause =>
          refine .bind (.update fun channel => ?_) fun _ => ?_
          · simp only [cost, hkernel.close]
          · split
            · exact .bind (.alarm rfl) fun _ => .pure (Nat.le_refl 0)
            · exact .bind (.alarm rfl) fun _ => .pure (Nat.le_refl 0)
            · exact .pure (Nat.le_refl 1)

theorem reports_registerInterface (iface : Interface) :
    Reports (cost onKernel onSysctl) (registerInterface (F := F) (τ := τ) iface) := by
  unfold registerInterface
  split
  · exact .bind (.log _) fun _ => .nothing _
  · refine .bind (reports_onSlots _) fun allocated => ?_
    cases allocated with
    | error err => exact .bind (.log _) fun _ => .nothing _
    | ok pair =>
        refine .bind (owes_kernelCall (hkernel.addInterface _ _)) fun added => ?_
        cases added with
        | ok => exact .bind (.log _) fun _ => .nothing _
        | error cause =>
            refine .bind (.alarm rfl) fun _ => ?_
            exact .bind (reports_onSlots _) fun _ => .nothing _

theorem reports_disable : Reports (cost onKernel onSysctl) (disable (F := F) (τ := τ)) := by
  have hclose : ∀ channel : Channel F κ τ,
      onKernel (Kernel.close channel.kernel) + onSysctl channel.sysctl =
        cost onKernel onSysctl channel := fun channel => by rw [hkernel.close, cost]
  refine .within _ (.bind (.read _) fun holds => ?_)
  split
  · refine .bind (.update fun _ => rfl) fun _ => ?_
    refine .bind (owes_kernelCall hkernel.release) fun released => ?_
    cases released with
    | ok => exact .bind (.update hclose) fun _ => .log _
    | error cause => exact .bind (.alarm rfl) fun _ => .bind (.update hclose) fun _ => .log _
  · exact .update fun _ => rfl

theorem reports_whenEnabled (operation : Registry.Operation F) :
    Reports (cost onKernel onSysctl) (whenEnabled (τ := τ) operation.perform) := by
  refine .bind (.read _) fun holds => ?_
  split
  · refine .on (fun after channel => ?_) (operation.reports_perform hkernel)
    simp only [cost]
    omega
  · exact .nothing _

variable [Sysctl τ] (hsysctl : Sysctl.Counts onSysctl)

include hsysctl

omit hkernel [Kernel F κ] in
theorem reports_enableForwarding :
    Reports (cost onKernel onSysctl) (enableForwarding (F := F)) := by
  refine .bind (.read _) fun switch => ?_
  cases switch with
  | none => exact .nothing _
  | some path =>
      have hwrite : Owes (cost (F := F) onKernel onSysctl) 0 writeFailure
          (Action.on Channel.sysctl (fun sysctl channel => { channel with sysctl })
            (Action.call (Sysctl.setBool path true))) := by
        refine .on (fun after channel => ?_) (.call (hsysctl path true))
        simp only [cost]
        omega
      refine .bind hwrite fun result => ?_
      cases result with
      | ok => exact .log _
      | error cause =>
          dsimp only [writeFailure]
          split
          · exact .nothing _
          · exact .alarm rfl

theorem reports_setUp (table : InterfaceTable) :
    Reports (cost onKernel onSysctl) (setUp (F := F) table) := by
  refine .bind (reports_onSlots _) fun _ => ?_
  refine .bind (reports_enableForwarding hsysctl) fun _ => ?_
  refine .bind (.each (reports_registerInterface hkernel) _) fun slots => ?_
  refine .bind (.update fun _ => rfl) fun _ => .bind (.read _) fun size => ?_
  exact .bind (.log _) fun _ => .nothing _

theorem owes_enable (table : InterfaceTable) :
    Owes (cost onKernel onSysctl) 0 fatalDue (enable (F := F) table) := by
  refine .within _ (.bind (.read _) fun phase => ?_)
  split
  · exact .pure (Nat.le_refl 0)
  · refine .bind (.update fun _ => rfl) fun _ => .bind (owes_claim hkernel) fun claimed => ?_
    cases claimed with
    | error err => exact .bind (.update fun _ => rfl) fun _ => .pure (Nat.le_refl _)
    | ok => exact .bind (reports_setUp hkernel hsysctl table) fun _ => .pure (Nat.le_refl 0)

end Kernels

end Channel

end Multicast
