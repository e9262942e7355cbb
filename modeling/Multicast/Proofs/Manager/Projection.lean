import Multicast.Manager
import Multicast.Proofs.Channel.Projection

/-!
# Managers over a view of their kernels

What a manager does depends on its kernels and switches only through their answers. So along a view
that answers as they do, everything that is done with a manager projects.
-/

namespace Multicast.Manager

open Multicast.Action

variable {F : Family} {κ κ' κ₄ κ₄' κ₆ κ₆' τ τ' α : Type}

section Family

variable [Kernel F κ] [Kernel F κ'] {onKernel : κ → κ'} {onSysctl : τ → τ'}
  (hkernel : Kernel.Projects onKernel)

include hkernel

theorem projects_applyEntry (interfaces : InterfaceTable) (defaultTtl : UInt8)
    (entry : RouteEntry) :
    Projects (Channel.view onKernel onSysctl) (applyEntry (F := F) interfaces defaultTtl entry)
      (applyEntry interfaces defaultTtl entry) := by
  refine .bind (.read fun _ => rfl) fun enabled => ?_
  split
  · dsimp only
    split
    · refine .bind (.pure _) fun result => ?_
      cases result with
      | ok => exact .pure _
      | error err => exact .bind (.log _) fun _ => .pure _
    · refine .bind (Channel.projects_whenEnabled hkernel (.add _)) fun added => ?_
      refine .bind (.pure _) fun result => ?_
      cases result with
      | ok => exact .pure _
      | error err => exact .bind (.log _) fun _ => .pure _
  · exact .bind (.log _) fun _ => .pure _

theorem projects_enableFamily [Sysctl τ] [Sysctl τ'] (hsysctl : Sysctl.Projects onSysctl)
    (interfaces : InterfaceTable) :
    Projects (Channel.view onKernel onSysctl) (enableFamily (F := F) interfaces)
      (enableFamily interfaces) := by
  refine .bind (Channel.projects_enable hkernel hsysctl interfaces) fun enabled => ?_
  cases enabled with
  | ok annotated => exact .pure _
  | error err =>
      dsimp only
      split
      · exact .bind (.log _) fun _ => .pure _
      · exact .bind (.log _) fun _ => .pure _

end Family

def view (ipv4 : κ₄ → κ₄') (ipv6 : κ₆ → κ₆') (onSysctl : τ → τ') (manager : Manager κ₄ κ₆ τ) :
    Manager κ₄' κ₆' τ' where
  config := manager.config
  interfaces := manager.interfaces
  ipv4 := manager.ipv4.view ipv4 onSysctl
  ipv6 := manager.ipv6.view ipv6 onSysctl

variable {ipv4 : κ₄ → κ₄'} {ipv6 : κ₆ → κ₆'} {onSysctl : τ → τ'}

theorem projects_onIPv4 {detailed : Action (Channel .ipv4 κ₄ τ) α}
    {plain : Action (Channel .ipv4 κ₄' τ') α}
    (hprojects : Projects (Channel.view ipv4 onSysctl) detailed plain) :
    Projects (view ipv4 ipv6 onSysctl) (onIPv4 detailed) (onIPv4 plain) :=
  .on (fun _ => rfl) (fun _ _ => rfl) hprojects

theorem projects_onIPv6 {detailed : Action (Channel .ipv6 κ₆ τ) α}
    {plain : Action (Channel .ipv6 κ₆' τ') α}
    (hprojects : Projects (Channel.view ipv6 onSysctl) detailed plain) :
    Projects (view ipv4 ipv6 onSysctl) (onIPv6 detailed) (onIPv6 plain) :=
  .on (fun _ => rfl) (fun _ _ => rfl) hprojects

theorem projects_enableWanted (F : Family)
    {enable : InterfaceTable → Action (Manager κ₄ κ₆ τ) (Except DaemonError InterfaceTable)}
    {plain : InterfaceTable → Action (Manager κ₄' κ₆' τ') (Except DaemonError InterfaceTable)}
    (henable : ∀ table, Projects (view ipv4 ipv6 onSysctl) (enable table) (plain table)) :
    Projects (view ipv4 ipv6 onSysctl) (enableWanted F enable) (enableWanted F plain) := by
  refine .bind (.read fun _ => rfl) fun config => ?_
  split
  · refine .bind (.read fun _ => rfl) fun interfaces => ?_
    refine .bind (henable interfaces) fun result => ?_
    cases result with
    | ok annotated => exact .bind (.update fun _ => rfl) fun _ => .pure _
    | error err => exact .pure _
  · exact .pure _

variable [Kernel .ipv4 κ₄] [Kernel .ipv4 κ₄'] [Kernel .ipv6 κ₆] [Kernel .ipv6 κ₆']
  (hipv4 : Kernel.Projects ipv4) (hipv6 : Kernel.Projects ipv6)

include hipv4 hipv6

theorem projects_applyOne (interfaces : InterfaceTable) (defaultTtl : UInt8) (entry : RouteEntry) :
    Projects (view ipv4 ipv6 onSysctl) (applyOne interfaces defaultTtl entry)
      (applyOne interfaces defaultTtl entry) := by
  unfold applyOne
  split
  · exact projects_onIPv4 (projects_applyEntry hipv4 _ _ entry)
  · exact projects_onIPv6 (projects_applyEntry hipv6 _ _ entry)

theorem projects_applyRoutes : Projects (view ipv4 ipv6 onSysctl) applyRoutes applyRoutes := by
  refine .bind (.read fun _ => rfl) fun config => .bind (.read fun _ => rfl) fun interfaces => ?_
  exact .bind (.each (projects_applyOne hipv4 hipv6 _ _) config.routes) fun _ => .pure _

theorem projects_stop : Projects (view ipv4 ipv6 onSysctl) stop stop :=
  .bind (projects_onIPv4 (Channel.projects_disable hipv4)) fun _ =>
    projects_onIPv6 (Channel.projects_disable hipv6)

variable [Sysctl τ] [Sysctl τ'] (hsysctl : Sysctl.Projects onSysctl)

include hsysctl

theorem projects_start (table : InterfaceTable) :
    Projects (view ipv4 ipv6 onSysctl) (start table) (start table) := by
  refine .within _ (.bind (.update fun _ => rfl) fun _ => ?_)
  refine .bind ?_ fun first => ?_
  · exact projects_enableWanted .ipv4 fun table =>
      projects_onIPv4 (projects_enableFamily hipv4 hsysctl table)
  cases first with
  | error err => exact .pure _
  | ok =>
      refine .bind ?_ fun second => ?_
      · exact projects_enableWanted .ipv6 fun table =>
          projects_onIPv6 (projects_enableFamily hipv6 hsysctl table)
      cases second with
      | error err => exact .pure _
      | ok =>
          refine .bind (projects_applyRoutes hipv4 hipv6) fun _ => ?_
          exact .bind (.log _) fun _ => .pure _

theorem projects_reload (config : Config) (table : InterfaceTable) :
    Projects (view ipv4 ipv6 onSysctl) (reload config table) (reload config table) := by
  refine .within _ (.bind (projects_stop hipv4 hipv6) fun _ => ?_)
  exact .bind (.update fun _ => rfl) fun _ => projects_start hipv4 hipv6 hsysctl table

end Multicast.Manager
