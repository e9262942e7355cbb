import Multicast.Proofs.Channel.Exchange
import Multicast.Proofs.Channel.Reporting
import Multicast.Proofs.Manager.Operation
import Multicast.Proofs.Manager.Projection

/-!
# What a manager reports

Whatever is done with a manager, it logs at least as many warnings and errors as calls to the
kernels have failed. To say so for any kernels, they are listened to, which changes nothing about
what is done.
-/

namespace Multicast

open Multicast.Action

variable {F : Family} {κ κ₄ κ₄' κ₆ κ₆' τ τ' α : Type}

/-! ### Failures that are heard -/

namespace Heard

def failures (heard : Heard F κ) : Nat :=
  heard.exchanges.countP fun exchange => !exchange.succeeds

theorem failures_hear (call : KernelCall F) (step : κ → Except OsError Unit × κ)
    (heard : Heard F κ) :
    (hear call step heard).2.failures = heard.failures + failure (hear call step heard).1 := by
  rw [failures, hear, List.countP_append]
  cases (step heard.kernel).1 <;> rfl

variable [Kernel F κ]

theorem counts_failures : Kernel.Counts (failures : Heard F κ → Nat) where
  addRoute := fun _ => failures_hear _ _
  delRoute := fun _ => failures_hear _ _
  openSocket := failures_hear _ _
  claim := failures_hear _ _
  release := failures_hear _ _
  addInterface := fun _ _ => failures_hear _ _
  close := fun _ => List.countP_append

theorem projects_kernel : Kernel.Projects (kernel : Heard F κ → κ) where
  addRoute := fun _ _ => rfl
  delRoute := fun _ _ => rfl
  openSocket := fun _ => rfl
  claim := fun _ => rfl
  release := fun _ => rfl
  addInterface := fun _ _ _ => rfl
  close := fun _ => rfl

end Heard

structure Watched (τ : Type) where
  sysctl : τ
  answers : List (Except OsError Unit) := []

namespace Watched

variable [Sysctl τ]

instance : Sysctl (Watched τ) where
  setBool path value watched :=
    ((Sysctl.setBool path value watched.sysctl).1,
      { sysctl := (Sysctl.setBool path value watched.sysctl).2
        answers := watched.answers ++ [(Sysctl.setBool path value watched.sysctl).1] })

def failures (watched : Watched τ) : Nat :=
  watched.answers.countP fun answer => writeFailure answer != 0

theorem counts_failures : Sysctl.Counts (failures : Watched τ → Nat) := by
  intro path value watched
  simp only [failures, Sysctl.setBool, List.countP_append, List.countP_singleton]
  congr 1
  cases (Sysctl.setBool path value watched.sysctl).1 with
  | ok => rfl
  | error cause => by_cases haccess : cause = .errno Errno.access <;> simp [writeFailure, haccess]

theorem projects_sysctl : Sysctl.Projects (sysctl : Watched τ → τ) := fun _ _ _ => rfl

end Watched

namespace Manager

abbrev Listened (κ₄ κ₆ τ : Type) : Type := Manager (Heard .ipv4 κ₄) (Heard .ipv6 κ₆) (Watched τ)

def listened (manager : Manager κ₄ κ₆ τ) : Listened κ₄ κ₆ τ :=
  manager.view (fun kernel => { kernel }) (fun kernel => { kernel }) fun sysctl => { sysctl }

def unheard : Listened κ₄ κ₆ τ → Manager κ₄ κ₆ τ :=
  view Heard.kernel Heard.kernel Watched.sysctl

def cost (ipv4 : κ₄ → Nat) (ipv6 : κ₆ → Nat) (onSysctl : τ → Nat) (manager : Manager κ₄ κ₆ τ) :
    Nat :=
  manager.ipv4.cost ipv4 onSysctl + manager.ipv6.cost ipv6 onSysctl

/-- The calls that failed, and the writes that did for another reason than permission. -/
def failures : Listened κ₄ κ₆ τ → Nat := cost Heard.failures Heard.failures Watched.failures

section Family

variable [Kernel F κ] [Sysctl τ] {onKernel : κ → Nat} {onSysctl : τ → Nat}
  (hkernel : Kernel.Counts onKernel) (hsysctl : Sysctl.Counts onSysctl)

include hkernel

omit [Sysctl τ] in
theorem reports_applyEntry (interfaces : InterfaceTable) (defaultTtl : UInt8)
    (entry : RouteEntry) :
    Reports (Channel.cost onKernel onSysctl)
      (applyEntry (F := F) (τ := τ) interfaces defaultTtl entry) := by
  refine .bind (.read _) fun enabled => ?_
  split
  · dsimp only
    split
    · refine .bind (.nothing _) fun result => ?_
      cases result with
      | ok => exact .nothing _
      | error err => exact .bind (.log _) fun _ => .nothing _
    · refine .bind (Channel.reports_whenEnabled hkernel (.add _)) fun added => ?_
      refine .bind (.nothing _) fun result => ?_
      cases result with
      | ok => exact .nothing _
      | error err => exact .bind (.log _) fun _ => .nothing _
  · exact .bind (.log _) fun _ => .nothing _

include hsysctl

/-- A fatal failure is logged here, where the channel has only answered it. -/
theorem reports_enableFamily (interfaces : InterfaceTable) :
    Reports (Channel.cost onKernel onSysctl) (enableFamily (F := F) interfaces) := by
  refine .bind (Channel.owes_enable hkernel hsysctl interfaces) fun enabled => ?_
  cases enabled with
  | ok annotated => exact .nothing _
  | error err =>
      dsimp only [Channel.fatalDue]
      split
      · exact .bind (.alarm rfl) fun _ => .nothing _
      · exact .bind (.log _) fun _ => .nothing _

end Family

section Kernels

variable {ipv4 : κ₄ → Nat} {ipv6 : κ₆ → Nat} {onSysctl : τ → Nat}

theorem reports_onIPv4 {action : Action (Channel .ipv4 κ₄ τ) α}
    (hreports : Reports (Channel.cost ipv4 onSysctl) action) :
    Reports (cost ipv4 ipv6 onSysctl) (onIPv4 action) := by
  refine .on (fun after manager => ?_) hreports
  simp only [cost]
  omega

theorem reports_onIPv6 {action : Action (Channel .ipv6 κ₆ τ) α}
    (hreports : Reports (Channel.cost ipv6 onSysctl) action) :
    Reports (cost ipv4 ipv6 onSysctl) (onIPv6 action) := by
  refine .on (fun after manager => ?_) hreports
  simp only [cost]
  omega

theorem reports_enableWanted (F : Family)
    {enable : InterfaceTable → Action (Manager κ₄ κ₆ τ) (Except DaemonError InterfaceTable)}
    (henable : ∀ table, Reports (cost ipv4 ipv6 onSysctl) (enable table)) :
    Reports (cost ipv4 ipv6 onSysctl) (enableWanted F enable) := by
  refine .bind (.read _) fun config => ?_
  split
  · refine .bind (.read _) fun interfaces => .bind (henable interfaces) fun result => ?_
    cases result with
    | ok annotated => exact .bind (.update fun _ => rfl) fun _ => .nothing _
    | error err => exact .nothing _
  · exact .nothing _

variable [Kernel .ipv4 κ₄] [Kernel .ipv6 κ₆]

variable (hipv4 : Kernel.Counts ipv4) (hipv6 : Kernel.Counts ipv6)

include hipv4 hipv6

theorem reports_applyOne (interfaces : InterfaceTable) (defaultTtl : UInt8)
    (entry : RouteEntry) :
    Reports (cost ipv4 ipv6 onSysctl)
      (applyOne interfaces defaultTtl entry : Action (Manager κ₄ κ₆ τ) Applied) := by
  unfold applyOne
  split
  · exact reports_onIPv4 (reports_applyEntry hipv4 _ _ entry)
  · exact reports_onIPv6 (reports_applyEntry hipv6 _ _ entry)

theorem reports_applyRoutes :
    Reports (cost ipv4 ipv6 onSysctl) (applyRoutes : Action (Manager κ₄ κ₆ τ) Summary) := by
  refine .bind (.read _) fun config => .bind (.read _) fun interfaces => ?_
  exact .bind (.each (reports_applyOne hipv4 hipv6 _ _) config.routes) fun _ => .nothing _

theorem reports_stop :
    Reports (cost ipv4 ipv6 onSysctl) (stop : Action (Manager κ₄ κ₆ τ) Unit) :=
  .bind (reports_onIPv4 (Channel.reports_disable hipv4)) fun _ =>
    reports_onIPv6 (Channel.reports_disable hipv6)

variable [Sysctl τ] (hsysctl : Sysctl.Counts onSysctl)

include hsysctl

omit [Kernel .ipv6 κ₆] hipv6 in
theorem reports_enableIPv4 :
    Reports (cost ipv4 ipv6 onSysctl) (enableIPv4 : Action (Manager κ₄ κ₆ τ) _) :=
  reports_enableWanted .ipv4 fun table => reports_onIPv4 (reports_enableFamily hipv4 hsysctl table)

omit [Kernel .ipv4 κ₄] hipv4 in
theorem reports_enableIPv6 :
    Reports (cost ipv4 ipv6 onSysctl) (enableIPv6 : Action (Manager κ₄ κ₆ τ) _) :=
  reports_enableWanted .ipv6 fun table => reports_onIPv6 (reports_enableFamily hipv6 hsysctl table)

theorem reports_start (table : InterfaceTable) :
    Reports (cost ipv4 ipv6 onSysctl) (start table : Action (Manager κ₄ κ₆ τ) _) := by
  refine .within _ (.bind (.update fun _ => rfl) fun _ => ?_)
  refine .bind (reports_enableIPv4 hipv4 hsysctl) fun first => ?_
  cases first with
  | error err => exact .nothing _
  | ok =>
      refine .bind (reports_enableIPv6 hipv6 hsysctl) fun second => ?_
      cases second with
      | error err => exact .nothing _
      | ok =>
          refine .bind (reports_applyRoutes hipv4 hipv6) fun _ => ?_
          exact .bind (.log _) fun _ => .nothing _

theorem reports_reload (config : Config) (table : InterfaceTable) :
    Reports (cost ipv4 ipv6 onSysctl) (reload config table : Action (Manager κ₄ κ₆ τ) _) := by
  refine .within _ (.bind (reports_stop hipv4 hipv6) fun _ => ?_)
  exact .bind (.update fun _ => rfl) fun _ => reports_start hipv4 hipv6 hsysctl table

end Kernels

/-! ### Whatever is done -/

section Work

variable [Kernel .ipv4 κ₄] [Kernel .ipv4 κ₄'] [Kernel .ipv6 κ₆] [Kernel .ipv6 κ₆'] [Sysctl τ]
  [Sysctl τ']

theorem Work.projects_perform {ipv4 : κ₄ → κ₄'} {ipv6 : κ₆ → κ₆'} {onSysctl : τ → τ'}
    (hipv4 : Kernel.Projects ipv4) (hipv6 : Kernel.Projects ipv6)
    (hsysctl : Sysctl.Projects onSysctl) (work : Work Registry.Operation) :
    Projects (view ipv4 ipv6 onSysctl) work.perform work.perform := by
  cases work with
  | start interfaces =>
      exact .bind (projects_start hipv4 hipv6 hsysctl interfaces) fun _ => .pure ()
  | reload config interfaces =>
      exact .bind (projects_reload hipv4 hipv6 hsysctl config interfaces) fun _ => .pure ()
  | stop => exact projects_stop hipv4 hipv6
  | applyRoutes => exact .bind (projects_applyRoutes hipv4 hipv6) fun _ => .pure ()
  | ipv4 operation =>
      refine .bind (projects_onIPv4 ?_) fun _ => .pure ()
      exact Channel.projects_whenEnabled hipv4 operation
  | ipv6 operation =>
      refine .bind (projects_onIPv6 ?_) fun _ => .pure ()
      exact Channel.projects_whenEnabled hipv6 operation

theorem Work.reports_perform {ipv4 : κ₄ → Nat} {ipv6 : κ₆ → Nat} {onSysctl : τ → Nat}
    (hipv4 : Kernel.Counts ipv4) (hipv6 : Kernel.Counts ipv6) (hsysctl : Sysctl.Counts onSysctl)
    (work : Work Registry.Operation) :
    Reports (cost ipv4 ipv6 onSysctl) (work.perform : Action (Manager κ₄ κ₆ τ) Unit) := by
  cases work with
  | start interfaces =>
      exact .bind (reports_start hipv4 hipv6 hsysctl interfaces) fun _ => .nothing _
  | reload config interfaces =>
      exact .bind (reports_reload hipv4 hipv6 hsysctl config interfaces) fun _ => .nothing _
  | stop => exact reports_stop hipv4 hipv6
  | applyRoutes => exact .bind (reports_applyRoutes hipv4 hipv6) fun _ => .nothing _
  | ipv4 operation =>
      refine .bind (reports_onIPv4 ?_) fun _ => .nothing _
      exact Channel.reports_whenEnabled hipv4 operation
  | ipv6 operation =>
      refine .bind (reports_onIPv6 ?_) fun _ => .nothing _
      exact Channel.reports_whenEnabled hipv6 operation

end Work

end Manager

end Multicast
