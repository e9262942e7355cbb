import Multicast.Channel
import Multicast.Proofs.Action
import Multicast.Proofs.Registry.Operation

/-!
# Channels over a view of their kernel

A kernel may keep more than another that answers the same, and so may switches. A channel on the one
then does what it does on the other: no answer, event or state of it depends on what the kernel
keeps besides.
-/

namespace Multicast

open Multicast.Action

variable {F : Family} {κ κ' τ τ' α : Type}

/-- The view of a kernel answers every call as the kernel does, and keeps up with it. -/
structure Kernel.Projects [Kernel F κ] [Kernel F κ'] (view : κ → κ') : Prop where
  addRoute (route : Route F) :
    Action.Projects view (call (RouteSocket.addRoute route)) (call (RouteSocket.addRoute route))
  delRoute (route : Route F) :
    Action.Projects view (call (RouteSocket.delRoute route)) (call (RouteSocket.delRoute route))
  openSocket : Action.Projects view (call Kernel.openSocket) (call Kernel.openSocket)
  claim : Action.Projects view (call Kernel.claim) (call Kernel.claim)
  release : Action.Projects view (call Kernel.release) (call Kernel.release)
  addInterface (slot : SlotIndex) (iface : Interface) :
    Action.Projects view (call (Kernel.addInterface slot iface))
      (call (Kernel.addInterface slot iface))
  close (kernel : κ) : Kernel.close (view kernel) = view (Kernel.close kernel)

def Sysctl.Projects [Sysctl τ] [Sysctl τ'] (view : τ → τ') : Prop :=
  ∀ path value, Action.Projects view (call (Sysctl.setBool path value))
    (call (Sysctl.setBool path value))

theorem Sysctl.projects_id [Sysctl τ] : Sysctl.Projects (id : τ → τ) :=
  fun _ _ => Action.projects_id _

section Routes

variable [Kernel F κ] [Kernel F κ'] {view : κ → κ'}

theorem Route.projects_install (hview : Kernel.Projects view) (route : Route F) :
    Projects view route.install route.install := by
  refine .bind (.log _) fun _ => .bind (hview.addRoute route) fun added => ?_
  cases added with
  | ok => exact .pure _
  | error cause => exact .bind (.log _) fun _ => .pure _

theorem Route.projects_uninstall (hview : Kernel.Projects view) (route : Route F) :
    Projects view route.uninstall route.uninstall := by
  refine .bind (.log _) fun _ => .bind (hview.delRoute route) fun deleted => ?_
  cases deleted with
  | ok => exact .pure _
  | error cause => exact .bind (.log _) fun _ => .pure _

namespace Registry

variable (hview : Kernel.Projects view)

include hview

theorem projects_add (route : Route F) :
    Projects (Prod.map id view) (Registry.add route) (Registry.add route) := by
  unfold Registry.add
  split
  · exact .bind (.log _) fun _ => .bind (projects_onFst _ _) fun _ => .pure _
  · exact projects_onSnd (route.projects_install hview)

theorem projects_resolve (flow : Flow F) :
    Projects (Prod.map id view) (resolve flow) (resolve flow) := by
  refine .bind (.read fun _ => rfl) fun template => ?_
  cases template with
  | none => exact .bind (.log _) fun _ => .pure _
  | some template =>
      refine .bind (projects_onFst _ _) fun _ => ?_
      exact projects_onSnd (Route.projects_install hview _)

theorem projects_dropTemplates (group : F.Addr) (inbound : SlotIndex) :
    Projects (Prod.map id view) (dropTemplates group inbound) (dropTemplates group inbound) := by
  refine .bind (.read fun _ => rfl) fun registry => ?_
  split
  · refine .bind (projects_onSnd (.each (Route.projects_uninstall hview) _)) fun _ => ?_
    exact projects_onFst _ _
  · exact .pure _

theorem projects_remove (route : Route F) :
    Projects (Prod.map id view) (remove route) (remove route) := by
  unfold remove
  split
  · refine .bind (projects_dropTemplates hview _ _) fun _ => ?_
    exact projects_onSnd (route.projects_uninstall hview)
  · exact projects_onSnd (route.projects_uninstall hview)

theorem Operation.projects_perform (operation : Operation F) :
    Projects (Prod.map id view) operation.perform operation.perform := by
  cases operation with
  | add route => exact projects_add hview route
  | remove route => exact projects_remove hview route
  | resolve flow => exact projects_resolve hview flow
  | clear => exact .bind (projects_onFst _ _) fun _ => .pure _

end Registry

end Routes

namespace Channel

def view (onKernel : κ → κ') (onSysctl : τ → τ') (channel : Channel F κ τ) : Channel F κ' τ' where
  kernel := onKernel channel.kernel
  sysctl := onSysctl channel.sysctl
  forwardingSwitch := channel.forwardingSwitch
  phase := channel.phase
  holdsSocket := channel.holdsSocket
  slots := channel.slots
  registry := channel.registry

variable {onKernel : κ → κ'} {onSysctl : τ → τ'}

theorem projects_kernelCall {step : κ → Except OsError Unit × κ}
    {plain : κ' → Except OsError Unit × κ'}
    (hstep : Projects onKernel (call step) (call plain)) :
    Projects (view (F := F) onKernel onSysctl) (kernelCall step) (kernelCall plain) :=
  .on (fun _ => rfl) (fun _ _ => rfl) hstep

theorem projects_onSlots (action : Action SlotTable α) :
    Projects (view (F := F) onKernel onSysctl) (onSlots action) (onSlots action) :=
  .on (fun _ => rfl) (fun _ _ => rfl) (projects_id action)

section Kernels

variable [Kernel F κ] [Kernel F κ'] (hkernel : Kernel.Projects onKernel)

include hkernel

theorem projects_claim : Projects (view onKernel onSysctl) (claim (F := F)) claim := by
  refine .bind (projects_kernelCall hkernel.openSocket) fun opened => ?_
  cases opened with
  | error cause =>
      dsimp only
      split
      · exact .bind (.log _) fun _ => .pure _
      · exact .pure _
  | ok =>
      refine .bind (projects_kernelCall hkernel.claim) fun claimed => ?_
      cases claimed with
      | ok => exact .pure _
      | error cause =>
          refine .bind (.update fun channel => ?_) fun _ => ?_
          · simp only [view, hkernel.close]
          · split
            · exact .bind (.log _) fun _ => .pure _
            · exact .bind (.log _) fun _ => .pure _
            · exact .pure _

theorem projects_registerInterface (iface : Interface) :
    Projects (view onKernel onSysctl) (registerInterface (F := F) iface)
      (registerInterface iface) := by
  unfold registerInterface
  split
  · exact .bind (.log _) fun _ => .pure _
  · refine .bind (projects_onSlots _) fun allocated => ?_
    cases allocated with
    | error err => exact .bind (.log _) fun _ => .pure _
    | ok pair =>
        refine .bind (projects_kernelCall (hkernel.addInterface _ _)) fun added => ?_
        cases added with
        | ok => exact .bind (.log _) fun _ => .pure _
        | error cause =>
            exact .bind (.log _) fun _ => .bind (projects_onSlots _) fun _ => .pure _

theorem projects_disable : Projects (view onKernel onSysctl) (disable (F := F)) disable := by
  refine .within _ (.bind (.read fun _ => rfl) fun holds => ?_)
  split
  · refine .bind (.update fun _ => rfl) fun _ => ?_
    refine .bind (projects_kernelCall hkernel.release) fun released => ?_
    cases released with
    | ok =>
        refine .bind (.update fun channel => ?_) fun _ => .log _
        simp only [view, hkernel.close]
    | error cause =>
        refine .bind (.log _) fun _ => .bind (.update fun channel => ?_) fun _ => .log _
        simp only [view, hkernel.close]
  · exact .update fun _ => rfl

theorem projects_whenEnabled (operation : Registry.Operation F) :
    Projects (view onKernel onSysctl) (whenEnabled operation.perform)
      (whenEnabled operation.perform) := by
  refine .bind (.read fun _ => rfl) fun holds => ?_
  split
  · exact .on (fun _ => rfl) (fun _ _ => rfl) (operation.projects_perform hkernel)
  · exact .pure _

variable [Sysctl τ] [Sysctl τ'] (hsysctl : Sysctl.Projects onSysctl)

include hsysctl

omit hkernel [Kernel F κ] [Kernel F κ'] in
theorem projects_enableForwarding :
    Projects (view onKernel onSysctl) (enableForwarding (F := F)) enableForwarding := by
  refine .bind (.read fun _ => rfl) fun switch => ?_
  cases switch with
  | none => exact .pure _
  | some path =>
      refine .bind (.on (fun _ => rfl) (fun _ _ => rfl) (hsysctl path true)) fun result => ?_
      cases result with
      | ok => exact .log _
      | error cause =>
          dsimp only
          split
          · exact .pure _
          · exact .log _

theorem projects_setUp (table : InterfaceTable) :
    Projects (view onKernel onSysctl) (setUp (F := F) table) (setUp table) := by
  refine .bind (projects_onSlots _) fun _ => .bind (projects_enableForwarding hsysctl) fun _ => ?_
  refine .bind (.each (projects_registerInterface hkernel) _) fun slots => ?_
  refine .bind (.update fun _ => rfl) fun _ => .bind (.read fun _ => rfl) fun size => ?_
  exact .bind (.log _) fun _ => .pure _

theorem projects_enable (table : InterfaceTable) :
    Projects (view onKernel onSysctl) (enable (F := F) table) (enable table) := by
  refine .within _ (.bind (.read fun _ => rfl) fun phase => ?_)
  split
  · exact .pure _
  · refine .bind (.update fun _ => rfl) fun _ => .bind (projects_claim hkernel) fun claimed => ?_
    cases claimed with
    | error err => exact .bind (.update fun _ => rfl) fun _ => .pure _
    | ok => exact .bind (projects_setUp hkernel hsysctl table) fun _ => .pure _

end Kernels

end Channel

end Multicast
