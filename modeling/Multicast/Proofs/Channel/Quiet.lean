import Multicast.Proofs.Channel.Operation
import Multicast.Proofs.Channel.Reporting
import Multicast.Proofs.Interface

/-!
# Where nothing fails

A channel that adds no failure says nothing of one. It is enabled without a warning, unless it runs
out of slots, and routes are added to it without one.
-/

namespace Multicast

open Multicast.Action

variable {F : Family} {κ τ : Type}

namespace SlotTable

variable {table : SlotTable} {iface : Interface}

theorem alarms_allocate (F : Family) (iface : Interface) (table : SlotTable) :
    alarms (allocate F iface table).events = 0 := by
  unfold allocate
  split
  · rfl
  · split
    · exact alarms_singleton_eq_zero rfl
    · rfl

theorem state_allocate_of_isFull (hfull : table.isFull = true) :
    (allocate F iface table).state = table := by
  have hfree : table.free? = none := Option.isNone_iff_eq_none.mp hfull
  unfold allocate
  rw [hfree]
  split <;> rfl

theorem isFull_of_allocate_error {err : RoutingError}
    (herror : (allocate F iface table).answer = .error err) :
    table.isFull = true ∧ (allocate F iface table).state = table := by
  unfold allocate at herror ⊢
  split at herror
  · cases herror
  · split at herror
    · cases herror
    · exact ⟨Option.isNone_iff_eq_none.mpr ‹_›, rfl⟩

end SlotTable

namespace Channel

/-- The slots are full, and an interface that needs one has none. -/
def Crowded (F : Family) (interfaces : List Interface) (slots : SlotTable) : Prop :=
  slots.isFull = true ∧
    ∃ iface ∈ interfaces, iface.isLoopback = false ∧ F.slotOf iface = none

instance (F : Family) (interfaces : List Interface) (slots : SlotTable) :
    Decidable (Crowded F interfaces slots) :=
  inferInstanceAs (Decidable (_ ∧ ∃ iface ∈ interfaces, _))

variable {onKernel : κ → Nat} {onSysctl : τ → Nat} {channel : Channel F κ τ}

theorem alarms_enableForwarding [Sysctl τ] (hsysctl : Sysctl.Counts onSysctl)
    (hcost : (enableForwarding channel).state.cost onKernel onSysctl =
      channel.cost onKernel onSysctl) : alarms (enableForwarding channel).events = 0 := by
  cases hswitch : channel.forwardingSwitch with
  | none => simp [enableForwarding, hswitch]
  | some path =>
      have hwritten := hsysctl path true channel.sysctl
      cases hwrite : (Sysctl.setBool path true channel.sysctl).1 with
      | ok =>
          have hevents : (enableForwarding channel).events = [forwardingOn F path] := by
            simp [enableForwarding, Action.on, hswitch, hwrite]
          rw [hevents]
          exact alarms_singleton_eq_zero rfl
      | error cause =>
          by_cases haccess : cause = .errno Errno.access
          · simp [enableForwarding, Action.on, hswitch, hwrite, haccess]
          · rw [hwrite, writeFailure, if_neg haccess] at hwritten
            simp [enableForwarding, hswitch, hwrite, haccess, cost, hwritten] at hcost

section Kernels

variable [Kernel F κ] (hkernel : Kernel.Counts onKernel)

include hkernel

theorem claim_of_cost_eq
    (hcost : (claim channel).state.cost onKernel onSysctl = channel.cost onKernel onSysctl) :
    (claim channel).answer = .ok () ∧ (claim channel).events = [] := by
  have hopened := hkernel.openSocket channel.kernel
  have hclaimed := hkernel.claim (Kernel.openSocket channel.kernel).2
  obtain ⟨cause, hopen, -, hstate⟩ | ⟨cause, hopen, hclaim, -, hstate⟩ |
    ⟨hopen, hclaim, hanswer, -⟩ := claim_cases channel
  · rw [hopen, failure] at hopened
    simp only [hstate, cost] at hcost
    omega
  · rw [hopen, failure] at hopened
    rw [hclaim, failure] at hclaimed
    simp only [hstate, cost, hkernel.close] at hcost
    omega
  · exact ⟨hanswer, by simp [claim, kernelCall, Action.on, hopen, hclaim]⟩

theorem registerInterface_of_cost_eq (iface : Interface)
    (hcost : (registerInterface iface channel).state.cost onKernel onSysctl =
      channel.cost onKernel onSysctl) :
    (alarms (registerInterface iface channel).events = 0 ∨
      iface.isLoopback = false ∧ channel.slots.isFull = true ∧
        (registerInterface iface channel).answer = none) ∧
      (channel.slots.isFull = true →
        (registerInterface iface channel).state.slots = channel.slots) := by
  cases hloop : iface.isLoopback with
  | true =>
      rw [(registerInterface_of_loopback channel hloop).2]
      have hevents : (registerInterface iface channel).events = [loopbackSkipped F iface] := by
        simp [registerInterface, hloop]
      rw [hevents]
      exact ⟨.inl (alarms_singleton_eq_zero rfl), fun _ => rfl⟩
  | false =>
      cases halloc : (SlotTable.allocate F iface channel.slots).answer with
      | error err =>
          obtain ⟨hanswer, hstate⟩ := registerInterface_of_not_allocated hloop halloc
          obtain ⟨hfull, hsame⟩ := SlotTable.isFull_of_allocate_error halloc
          rw [hstate, hsame]
          exact ⟨.inr ⟨rfl, hfull, hanswer⟩, fun _ => rfl⟩
      | ok pair =>
          obtain ⟨-, hstate⟩ := registerInterface_of_allocated hloop halloc
          have hadded := hkernel.addInterface pair.1 pair.2 channel.kernel
          cases hadd : (Kernel.addInterface pair.1 pair.2 channel.kernel).1 with
          | error cause =>
              rw [hadd, failure] at hadded
              simp only [hstate, cost] at hcost
              omega
          | ok =>
              have hevents : (registerInterface iface channel).events =
                  (SlotTable.allocate F iface channel.slots).events ++
                    [registered F pair.2 pair.1] := by
                simp [registerInterface, hloop, halloc, hadd, kernelCall, onSlots, Action.on]
              refine ⟨.inl ?_, fun hfull => ?_⟩
              · rw [hevents, alarms_append, SlotTable.alarms_allocate, Nat.zero_add]
                exact alarms_singleton_eq_zero rfl
              · rw [hstate, hadd]
                exact SlotTable.state_allocate_of_isFull hfull

theorem each_registerInterface_of_cost_eq (entries : List Interface) {channel : Channel F κ τ}
    (hcost : (Action.each registerInterface entries channel).state.cost onKernel onSysctl =
      channel.cost onKernel onSysctl) :
    let run := Action.each registerInterface entries channel
    (alarms run.events = 0 ∨
      Crowded F (InterfaceTable.annotateEach F run.answer entries) run.state.slots) ∧
      (channel.slots.isFull = true → run.state.slots = channel.slots) := by
  induction entries generalizing channel with
  | nil => exact ⟨.inl rfl, fun _ => rfl⟩
  | cons iface rest ih =>
      obtain ⟨after, hafter⟩ : ∃ after, (registerInterface iface channel).state = after := ⟨_, rfl⟩
      have hreports : ∀ iface, Reports (cost onKernel onSysctl) (registerInterface iface) :=
        reports_registerInterface hkernel
      have hone := (hreports iface).le channel
      have htwo := (Owes.each hreports rest).le after
      simp only [state_each_cons, hafter] at hcost hone
      -- neither the first nor the others add a failure, since all of them together add none
      have hsame : after.cost onKernel onSysctl = channel.cost onKernel onSysctl :=
        Nat.le_antisymm (hcost ▸ htwo) hone
      obtain ⟨hhead, hkeeps⟩ := registerInterface_of_cost_eq hkernel iface (hafter.symm ▸ hsame)
      obtain ⟨hrest, hstays⟩ := ih (hcost.trans hsame.symm)
      rw [hafter] at hkeeps
      simp only [alarms_each_cons, answer_each_cons, state_each_cons, hafter,
        InterfaceTable.annotateEach]
      refine ⟨?_, fun hfull => ?_⟩
      · rcases hrest with hquiet | ⟨hfull, other, hmem, hother⟩
        · rcases hhead with hquiet' | ⟨hloop, hfull, hanswer⟩
          · exact .inl (by omega)
          · have hslots := (hstays (hkeeps hfull ▸ hfull)).trans (hkeeps hfull)
            refine .inr ⟨hslots ▸ hfull, F.annotate none iface, ?_, ?_, ?_⟩
            · rw [hanswer]
              exact List.mem_cons_self
            · rwa [Family.isLoopback_annotate]
            · exact Family.slotOf_annotate F none iface
        · exact .inr ⟨hfull, other, List.mem_cons_of_mem _ hmem, hother⟩
      · rw [hstays (hkeeps hfull ▸ hfull), hkeeps hfull]

theorem add_of_cost_eq (route : Route F) (hholds : channel.holdsSocket = true)
    (hcost : (add route channel).state.cost onKernel onSysctl = channel.cost onKernel onSysctl) :
    (add route channel).answer = .ok () ∧ alarms (add route channel).events = 0 := by
  cases hwild : route.isWildcard with
  | true =>
      have hadd : (add route channel).answer = .ok () ∧
          (add route channel).events = [Registry.templateAdded route] := by
        simp [add, whenEnabled, hholds, onRegistry, Action.on, Registry.add, hwild, onFst]
      rw [hadd.2]
      exact ⟨hadd.1, alarms_singleton_eq_zero rfl⟩
  | false =>
      have hadded := hkernel.addRoute route channel.kernel
      cases hinstall : (RouteSocket.addRoute route channel.kernel).1 with
      | error cause =>
          rw [hinstall, failure] at hadded
          have hkernel : (add route channel).state.kernel =
              (RouteSocket.addRoute route channel.kernel).2 := by
            simp [state_add, hholds, routed, Registry.Operation.calls, hwild, RouteCall.apply]
          have hsysctl : (add route channel).state.sysctl = channel.sysctl := by
            simp [state_add, hholds, routed]
          rw [cost, cost, hkernel, hsysctl] at hcost
          omega
      | ok =>
          have hadd : (add route channel).answer = .ok () ∧
              (add route channel).events = [route.adding] := by
            simp [add, whenEnabled, hholds, onRegistry, Action.on, Registry.add, hwild, onSnd,
              Route.install, hinstall]
          rw [hadd.2]
          exact ⟨hadd.1, alarms_singleton_eq_zero rfl⟩

variable [Sysctl τ] (hsysctl : Sysctl.Counts onSysctl)

include hsysctl

theorem setUp_of_cost_eq (table : InterfaceTable)
    (hcost : (setUp table channel).state.cost onKernel onSysctl = channel.cost onKernel onSysctl) :
    alarms (setUp table channel).events = 0 ∨
      Crowded F (setUp table channel).answer.entries (setUp table channel).state.slots := by
  have hforwarding : channel.cost onKernel onSysctl ≤ channel.readied.cost onKernel onSysctl :=
    (reports_enableForwarding hsysctl).le { channel with slots := .empty }
  have hregister : channel.readied.cost onKernel onSysctl ≤
      (Action.each registerInterface table.entries channel.readied).state.cost onKernel onSysctl :=
    (Owes.each (reports_registerInterface hkernel) table.entries).le channel.readied
  have hforwarded : channel.readied.cost onKernel onSysctl = channel.cost onKernel onSysctl :=
    Nat.le_antisymm (hcost ▸ hregister) hforwarding
  have hevents : alarms (setUp table channel).events =
      alarms (enableForwarding { channel with slots := .empty }).events +
        alarms (Action.each registerInterface table.entries channel.readied).events := by
    have hsplit : (setUp table channel).events =
        (enableForwarding { channel with slots := .empty }).events ++
          ((Action.each registerInterface table.entries channel.readied).events ++
            [enabledNow F (setUp table channel).state.slots.size]) := rfl
    rw [hsplit, alarms_append, alarms_append, alarms_singleton_eq_zero rfl, Nat.add_zero]
  rw [hevents, alarms_enableForwarding hsysctl hforwarded, Nat.zero_add]
  exact (each_registerInterface_of_cost_eq hkernel table.entries (hcost.trans hforwarded.symm)).1

/-- Where no call and no write fails, a channel is enabled, and warns only if it is crowded. -/
theorem enable_of_cost_eq (table : InterfaceTable) (hphase : channel.phase ≠ .enabled)
    (hcost : (enable table channel).state.cost onKernel onSysctl =
      channel.cost onKernel onSysctl) :
    (enable table channel).state.phase = .enabled ∧
      (enable table channel).state.holdsSocket = true ∧
      ∃ annotated, (enable table channel).answer = .ok annotated ∧
        (alarms (enable table channel).events = 0 ∨
          Crowded F annotated.entries (enable table channel).state.slots) := by
  have hclaim : channel.cost onKernel onSysctl ≤
      (claim { channel with phase := .enabling }).state.cost onKernel onSysctl :=
    (owes_claim hkernel).le { channel with phase := .enabling }
  obtain ⟨henabled, -⟩ | ⟨-, err, herror, -, hstate⟩ | ⟨-, hok, hanswer, hstate⟩ :=
    enable_cases table channel
  · exact absurd henabled hphase
  · rw [hstate] at hcost
    rw [(claim_of_cost_eq hkernel hcost).1] at herror
    cases herror
  · have hsetUp := (reports_setUp hkernel hsysctl table).le
      (claim { channel with phase := .enabling }).state
    rw [hstate] at hcost
    have hclaimed := Nat.le_antisymm (hcost ▸ hsetUp) hclaim
    have hevents : alarms (enable table channel).events =
        alarms (claim { channel with phase := .enabling }).events +
          alarms (setUp table (claim { channel with phase := .enabling }).state).events := by
      simp [enable, hphase, hok]
    rw [hevents, (claim_of_cost_eq hkernel hclaimed).2, alarms_nil, Nat.zero_add]
    refine ⟨by rw [hstate, state_setUp], by rw [hstate, state_setUp], _, hanswer, ?_⟩
    rw [hstate]
    exact setUp_of_cost_eq hkernel hsysctl table (hcost.trans hclaimed.symm)

end Kernels

end Channel

end Multicast
