import Multicast.Channel
import Multicast.Proofs.Registry.Operation

/-!
# Operations of a channel

What each operation of a channel can do, over any kernel. Later proofs of what an operation answers
and leaves go through these statements.
-/

namespace Multicast.Channel

open Multicast.Action

variable {F : Family} {κ τ α : Type}

@[simp]
theorem answer_kernelCall (step : κ → Except OsError Unit × κ) (channel : Channel F κ τ) :
    (kernelCall step channel).answer = (step channel.kernel).1 := rfl

@[simp]
theorem state_kernelCall (step : κ → Except OsError Unit × κ) (channel : Channel F κ τ) :
    (kernelCall step channel).state = { channel with kernel := (step channel.kernel).2 } := rfl

@[simp]
theorem answer_onSlots (action : Action SlotTable α) (channel : Channel F κ τ) :
    (onSlots action channel).answer = (action channel.slots).answer := rfl

@[simp]
theorem state_onSlots (action : Action SlotTable α) (channel : Channel F κ τ) :
    (onSlots action channel).state = { channel with slots := (action channel.slots).state } := rfl

/-- What a channel knows of switches: what they are written to, and the path of its own. -/
def wiring (channel : Channel F κ τ) : τ × Option String :=
  (channel.sysctl, channel.forwardingSwitch)

variable [Kernel F κ] [Sysctl τ]

/-! ### Routes -/

def routed (operation : Registry.Operation F) (channel : Channel F κ τ) : Channel F κ τ :=
  { channel with
    registry := operation.effect channel.registry
    kernel := (operation.calls channel.registry).foldl RouteCall.apply channel.kernel }

omit [Sysctl τ] in
theorem state_whenEnabled (operation : Registry.Operation F) (channel : Channel F κ τ) :
    (whenEnabled operation.perform channel).state =
      if channel.holdsSocket then routed operation channel else channel := by
  by_cases hholds : channel.holdsSocket = true
  · simp [whenEnabled, hholds, onRegistry, Registry.state_perform, routed]
  · simp [whenEnabled, hholds]

omit [Sysctl τ] in
theorem answer_whenEnabled (operation : Registry.Operation F) (channel : Channel F κ τ) :
    (whenEnabled operation.perform channel).answer =
      if channel.holdsSocket then (operation.perform (channel.registry, channel.kernel)).answer
      else .error (.notEnabled F.name) := by
  by_cases hholds : channel.holdsSocket = true <;> simp [whenEnabled, hholds, onRegistry]

omit [Kernel F κ] [Sysctl τ] in
theorem whenEnabled_of_closed (action : Action (Registry F × κ) (Except RoutingError Unit))
    {channel : Channel F κ τ} (hclosed : channel.holdsSocket = false) :
    whenEnabled action channel = ⟨.error (.notEnabled F.name), channel, []⟩ := by
  simp [whenEnabled, bind_apply, hclosed]

omit [Sysctl τ] in
theorem state_add (route : Route F) (channel : Channel F κ τ) :
    (add route channel).state =
      if channel.holdsSocket then routed (.add route) channel else channel :=
  state_whenEnabled (.add route) channel

omit [Sysctl τ] in
theorem state_remove (route : Route F) (channel : Channel F κ τ) :
    (remove route channel).state =
      if channel.holdsSocket then routed (.remove route) channel else channel :=
  state_whenEnabled (.remove route) channel

/-! ### Claiming and giving up -/

def openFailure (F : Family) (cause : OsError) : RoutingError :=
  match cause.errorClass with
  | .protoNotAvailable => .unavailable F.name
  | _ => .fatal F.name "socket" cause

def claimFailure (F : Family) (cause : OsError) : RoutingError :=
  match cause.errorClass with
  | .addrInUse => .alreadyOwned F.name
  | .notSupported => .notSupported F.name F.calls.init
  | _ => .fatal F.name F.calls.init cause

omit [Sysctl τ] in
/-- The socket cannot be opened, or the kernel refuses the claim and the socket is closed again, or
the family is claimed. -/
theorem claim_cases (channel : Channel F κ τ) :
    (∃ cause, (Kernel.openSocket channel.kernel).1 = .error cause ∧
      (claim channel).answer = .error (openFailure F cause) ∧
      (claim channel).state =
        { channel with kernel := (Kernel.openSocket channel.kernel).2 }) ∨
    (∃ cause, (Kernel.openSocket channel.kernel).1 = .ok () ∧
      (Kernel.claim (Kernel.openSocket channel.kernel).2).1 = .error cause ∧
      (claim channel).answer = .error (claimFailure F cause) ∧
      (claim channel).state =
        { channel with
          kernel := Kernel.close (Kernel.claim (Kernel.openSocket channel.kernel).2).2 }) ∨
    ((Kernel.openSocket channel.kernel).1 = .ok () ∧
      (Kernel.claim (Kernel.openSocket channel.kernel).2).1 = .ok () ∧
      (claim channel).answer = .ok () ∧
      (claim channel).state =
        { channel with kernel := (Kernel.claim (Kernel.openSocket channel.kernel).2).2 }) := by
  cases hopen : (Kernel.openSocket channel.kernel).1 with
  | error cause =>
      refine .inl ⟨cause, rfl, ?_⟩
      cases hclass : cause.errorClass <;> simp [claim, openFailure, hopen, hclass]
  | ok =>
      cases hclaim : (Kernel.claim (Kernel.openSocket channel.kernel).2).1 with
      | error cause =>
          refine .inr (.inl ⟨cause, rfl, rfl, ?_⟩)
          cases hclass : cause.errorClass <;> simp [claim, claimFailure, hopen, hclaim, hclass]
      | ok => exact .inr (.inr ⟨rfl, rfl, by simp [claim, hopen, hclaim]⟩)

omit [Kernel F κ] in
theorem state_enableForwarding (channel : Channel F κ τ) :
    (enableForwarding channel).state =
      { channel with sysctl := (enableForwarding channel).state.sysctl } := by
  obtain hswitch | ⟨path, hswitch⟩ := Option.eq_none_or_eq_some channel.forwardingSwitch
  · have hsame : (enableForwarding channel).state = channel := by simp [enableForwarding, hswitch]
    rw [hsame]
  · cases hset : (Sysctl.setBool path true channel.sysctl).1 with
    | ok => simp [enableForwarding, hswitch, hset]
    | error cause =>
        by_cases haccess : cause = .errno Errno.access <;>
          simp [enableForwarding, hswitch, hset, haccess]

omit [Kernel F κ] in
/-- A claimed channel just before interfaces are registered: no slot is bound, and the switch for
forwarding has been tried. -/
def readied (channel : Channel F κ τ) : Channel F κ τ :=
  (enableForwarding { channel with slots := .empty }).state

omit [Kernel F κ] in
theorem readied_eq (channel : Channel F κ τ) :
    channel.readied =
      { channel with slots := .empty, sysctl := channel.readied.sysctl } := by
  unfold readied
  rw [state_enableForwarding]

theorem answer_setUp (table : InterfaceTable) (channel : Channel F κ τ) :
    (setUp table channel).answer =
      table.annotate F (Action.each registerInterface table.entries channel.readied).answer := rfl

theorem state_setUp (table : InterfaceTable) (channel : Channel F κ τ) :
    (setUp table channel).state =
      { (Action.each registerInterface table.entries channel.readied).state with
        registry := .empty, holdsSocket := true, phase := .enabled } := rfl

/-- A channel that is enabled already stays as it is; one whose claim fails ends disabled, with what
the claim left of the kernel; any other is set up. -/
theorem enable_cases (table : InterfaceTable) (channel : Channel F κ τ) :
    (channel.phase = .enabled ∧
      (enable table channel).answer = .error (.alreadyEnabled F.name) ∧
      (enable table channel).state = channel) ∨
    (channel.phase ≠ .enabled ∧ ∃ err,
      (claim { channel with phase := .enabling }).answer = .error err ∧
      (enable table channel).answer = .error err ∧
      (enable table channel).state =
        { (claim { channel with phase := .enabling }).state with phase := .disabled }) ∨
    (channel.phase ≠ .enabled ∧
      (claim { channel with phase := .enabling }).answer = .ok () ∧
      (enable table channel).answer =
        .ok (setUp table (claim { channel with phase := .enabling }).state).answer ∧
      (enable table channel).state =
        (setUp table (claim { channel with phase := .enabling }).state).state) := by
  by_cases hphase : channel.phase = .enabled
  · exact .inl ⟨hphase, by simp [enable, hphase], by simp [enable, hphase]⟩
  · cases hclaim : (claim { channel with phase := .enabling }).answer with
    | error err =>
        exact .inr (.inl ⟨hphase, err, rfl, by simp [enable, hphase, hclaim],
          by simp [enable, hphase, hclaim]⟩)
    | ok =>
        exact .inr (.inr ⟨hphase, rfl, by simp [enable, hphase, hclaim],
          by simp [enable, hphase, hclaim]⟩)

omit [Sysctl τ] in
theorem state_disable (channel : Channel F κ τ) :
    (disable channel).state =
      if channel.holdsSocket then
        { channel with
          kernel := Kernel.close (Kernel.release channel.kernel).2
          registry := .empty
          slots := .empty
          phase := .disabled
          holdsSocket := false }
      else { channel with phase := .disabled } := by
  by_cases hholds : channel.holdsSocket = true
  · cases hrelease : (Kernel.release channel.kernel).1 <;> simp [disable, hholds, hrelease]
  · simp [disable, hholds]

omit [Sysctl τ] in
theorem state_drop (channel : Channel F κ τ) :
    (drop channel).state = if channel.holdsSocket then (disable channel).state else channel := by
  by_cases hholds : channel.holdsSocket = true <;> simp [drop, hholds]

omit [Sysctl τ] in
theorem wiring_disable (channel : Channel F κ τ) :
    (disable channel).state.wiring = channel.wiring := by
  rw [state_disable]
  split <;> rfl

omit [Sysctl τ] in
theorem registerInterface_of_allocated {iface annotated : Interface} {slot : SlotIndex}
    {channel : Channel F κ τ} (hloop : iface.isLoopback = false)
    (halloc : (SlotTable.allocate F iface channel.slots).answer = .ok (slot, annotated)) :
    (registerInterface iface channel).answer =
        (if (Kernel.addInterface slot annotated channel.kernel).1.isOk then some slot else none) ∧
      (registerInterface iface channel).state =
        { channel with
          slots :=
            if (Kernel.addInterface slot annotated channel.kernel).1.isOk then
              (SlotTable.allocate F iface channel.slots).state
            else (SlotTable.allocate F iface channel.slots).state.release slot
          kernel := (Kernel.addInterface slot annotated channel.kernel).2 } := by
  cases hadd : (Kernel.addInterface slot annotated channel.kernel).1 <;>
    simp [registerInterface, hloop, halloc, hadd, Except.toBool]

omit [Sysctl τ] in
theorem registerInterface_of_not_allocated {iface : Interface} {err : RoutingError}
    {channel : Channel F κ τ} (hloop : iface.isLoopback = false)
    (halloc : (SlotTable.allocate F iface channel.slots).answer = .error err) :
    (registerInterface iface channel).answer = none ∧
      (registerInterface iface channel).state =
        { channel with slots := (SlotTable.allocate F iface channel.slots).state } := by
  simp [registerInterface, hloop, halloc]

omit [Sysctl τ] in
theorem registerInterface_of_loopback (channel : Channel F κ τ) {iface : Interface}
    (hloop : iface.isLoopback = true) :
    (registerInterface iface channel).answer = none ∧
      (registerInterface iface channel).state = channel := by
  simp [registerInterface, hloop]

omit [Sysctl τ] in
theorem state_registerInterface (iface : Interface) (channel : Channel F κ τ) :
    (registerInterface iface channel).state =
        { channel with slots := (registerInterface iface channel).state.slots } ∨
      ∃ slot annotated, (registerInterface iface channel).state =
        { channel with
          slots := (registerInterface iface channel).state.slots
          kernel := (Kernel.addInterface slot annotated channel.kernel).2 } := by
  cases hloop : iface.isLoopback with
  | true => exact .inl (by rw [(registerInterface_of_loopback channel hloop).2])
  | false =>
      cases halloc : (SlotTable.allocate F iface channel.slots).answer with
      | error err => exact .inl (by rw [(registerInterface_of_not_allocated hloop halloc).2])
      | ok pair =>
          refine .inr ⟨pair.1, pair.2, ?_⟩
          rw [(registerInterface_of_allocated hloop halloc).2]

/-- What is done with a channel that is not used behind its manager's back keeps the property. -/
structure Invariant (keeps : Channel F κ τ → Prop) : Prop where
  enable : ∀ table channel, keeps channel → keeps (Channel.enable table channel).state
  disable : ∀ channel, keeps channel → keeps (Channel.disable channel).state
  add : ∀ route channel, keeps channel → keeps (Channel.add route channel).state

end Multicast.Channel
