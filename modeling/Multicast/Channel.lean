import Multicast.Interface.Table
import Multicast.Registry
import Multicast.Slots
import Multicast.Sysctl

/-!
The control channel of one family: claiming the kernel's multicast routing, registering interfaces,
routes while it is claimed, and giving it up. The kernel lets one process claim a family, for as
long as its control socket is open.
-/

namespace Multicast

inductive Phase where
  | disabled
  /-- The socket is claimed and interfaces are being registered. -/
  | enabling
  | enabled
  deriving DecidableEq

/-- A channel with the kernel and the switches that it works on. -/
structure Channel (F : Family) (κ τ : Type) where
  kernel : κ
  sysctl : τ
  forwardingSwitch : Option String := F.forwardingSwitch
  phase : Phase := .disabled
  holdsSocket : Bool := false
  slots : SlotTable := .empty
  registry : Registry F := .empty
  deriving DecidableEq

namespace Channel

variable {F : Family} {κ τ α : Type}

def scope (F : Family) (name : String) : Scope :=
  { name, target := Target.channel, fields := [("family", .quoted F.name)] }

def event (F : Family) (level : Level) (message : String)
    (fields : List (String × FieldValue)) : Event :=
  { level, target := Target.channel, message, fields := ("family", .quoted F.name) :: fields }

def errnoField (cause : OsError) : String × FieldValue := ("errno", .text cause.errorClass.text)

def ifaceField (iface : Interface) : String × FieldValue := ("interface", .text iface.name)

def slotField (slot : SlotIndex) : String × FieldValue := ("slot", .number slot.toNat)

def unsupported (F : Family) : Event :=
  event F .warn (RoutingError.unavailable F.name).message []

def inUse (F : Family) (cause : OsError) : Event :=
  event F .warn (RoutingError.alreadyOwned F.name).message [errnoField cause]

def unknownOption (F : Family) (cause : OsError) : Event :=
  event F .warn (RoutingError.notSupported F.name F.calls.init).message [errnoField cause]

def forwardingOn (F : Family) (path : String) : Event :=
  event F .debug "Enabled multicast forwarding" [("path", .text path)]

def forwardingFailed (path : String) (cause : OsError) : Event where
  level := .warn
  target := Target.channel
  message := "Failed enabling multicast forwarding: " ++ cause.message
  fields := [("path", .text path), errnoField cause]

def loopbackSkipped (F : Family) (iface : Interface) : Event :=
  event F .debug "Skipping loopback" [ifaceField iface]

def withoutSlot (F : Family) (iface : Interface) (err : RoutingError) : Event :=
  event F .warn err.message [ifaceField iface]

def registered (F : Family) (iface : Interface) (slot : SlotIndex) : Event :=
  event F .info
    ("Added " ++ F.slotKind ++ " " ++ toString slot ++ " for " ++ iface.name)
    [ifaceField iface, slotField slot]

def registrationFailed (F : Family) (iface : Interface) (slot : SlotIndex) (cause : OsError) :
    Event :=
  event F .warn (F.calls.addSlot ++ " failed for " ++ iface.name ++ ": " ++ cause.message)
    [ifaceField iface, slotField slot, errnoField cause]

def enabledNow (F : Family) (slots : Nat) : Event :=
  event F .info (F.name ++ " multicast routing enabled") [("slots", .number slots)]

def releaseFailed (F : Family) (cause : OsError) : Event :=
  event F .warn (F.calls.done ++ " failed: " ++ cause.message) [errnoField cause]

def disabledNow (F : Family) : Event := event F .info (F.name ++ " multicast routing disabled") []

def kernelCall (step : κ → Except OsError Unit × κ) :
    Action (Channel F κ τ) (Except OsError Unit) :=
  Action.on Channel.kernel (fun kernel channel => { channel with kernel }) (Action.call step)

def onSlots (action : Action SlotTable α) : Action (Channel F κ τ) α :=
  Action.on Channel.slots (fun slots channel => { channel with slots }) action

def onRegistry (action : Action (Registry F × κ) α) : Action (Channel F κ τ) α :=
  Action.on (fun channel => (channel.registry, channel.kernel))
    (fun pair channel => { channel with registry := pair.1, kernel := pair.2 }) action

variable [Kernel F κ] [Sysctl τ]

/-- Opens the control socket and claims multicast routing with it; the socket is closed again if
the claim fails. -/
def claim : Action (Channel F κ τ) (Except RoutingError Unit) := do
  match ← kernelCall Kernel.openSocket with
  | .error cause =>
    match cause.errorClass with
    | .protoNotAvailable =>
      Action.log (unsupported F)
      pure (.error (.unavailable F.name))
    | _ => pure (.error (.fatal F.name "socket" cause))
  | .ok () =>
    match ← kernelCall Kernel.claim with
    | .ok () => pure (.ok ())
    | .error cause =>
      Action.update fun channel => { channel with kernel := Kernel.close channel.kernel }
      match cause.errorClass with
      | .addrInUse =>
        Action.log (inUse F cause)
        pure (.error (.alreadyOwned F.name))
      | .notSupported =>
        Action.log (unknownOption F cause)
        pure (.error (.notSupported F.name F.calls.init))
      | _ => pure (.error (.fatal F.name F.calls.init cause))

/-- Turns the switch for forwarding on. Without the permission to write it nothing is said, since
the kernel may have turned it on already. -/
def enableForwarding : Action (Channel F κ τ) Unit := do
  match ← Action.read Channel.forwardingSwitch with
  | none => pure ()
  | some path =>
    let result ← Action.on Channel.sysctl (fun sysctl channel => { channel with sysctl })
      (Action.call (Sysctl.setBool path true))
    match result with
    | .ok () => Action.log (forwardingOn F path)
    | .error cause =>
      if cause = .errno Errno.access then pure () else Action.log (forwardingFailed path cause)

/-- Registers an interface and answers the slot it gets; loopback interfaces get none, nor do those
that no slot is left for or that the kernel refuses. -/
def registerInterface (iface : Interface) : Action (Channel F κ τ) (Option SlotIndex) := do
  if iface.isLoopback then
    Action.log (loopbackSkipped F iface)
    pure none
  else
    match ← onSlots (SlotTable.allocate F iface) with
    | .error err =>
      Action.log (withoutSlot F iface err)
      pure none
    | .ok (slot, iface) =>
      match ← kernelCall (Kernel.addInterface slot iface) with
      | .ok () =>
        Action.log (registered F iface slot)
        pure (some slot)
      | .error cause =>
        Action.log (registrationFailed F iface slot cause)
        let _ ← onSlots (SlotTable.unbind slot)
        pure none

/-- What follows a successful claim: answers the table with the slots that the interfaces got, taken
in table order. -/
def setUp (table : InterfaceTable) : Action (Channel F κ τ) InterfaceTable := do
  onSlots (Action.update fun _ => .empty)
  enableForwarding
  let slots ← Action.each registerInterface table.entries
  Action.update fun channel =>
    { channel with registry := .empty, holdsSocket := true, phase := .enabled }
  let size ← Action.read fun channel => channel.slots.size
  Action.log (enabledNow F size)
  pure (table.annotate F slots)

/-- Only a claim that fails makes it fail; answers the table with the slots of the interfaces. -/
def enable (table : InterfaceTable) :
    Action (Channel F κ τ) (Except RoutingError InterfaceTable) :=
  Action.within (scope F "enable") do
    if (← Action.read Channel.phase) = .enabled then pure (.error (.alreadyEnabled F.name))
    else do
      Action.update fun channel => { channel with phase := .enabling }
      match ← claim with
      | .error err =>
        Action.update fun channel => { channel with phase := .disabled }
        pure (.error err)
      | .ok () =>
        let annotated ← setUp table
        pure (.ok annotated)

/-- Gives the family up. Routes are not deleted one by one, since closing the socket forgets them;
interfaces keep the slots recorded on them until the next time. -/
def disable : Action (Channel F κ τ) Unit :=
  Action.within (scope F "disable") do
    if ← Action.read Channel.holdsSocket then
      Action.update fun channel => { channel with holdsSocket := false }
      match ← kernelCall Kernel.release with
      | .ok () => pure ()
      | .error cause => Action.log (releaseFailed F cause)
      Action.update fun channel =>
        { channel with
          kernel := Kernel.close channel.kernel
          registry := .empty
          slots := .empty
          phase := .disabled }
      Action.log (disabledNow F)
    else Action.update fun channel => { channel with phase := .disabled }

def whenEnabled (action : Action (Registry F × κ) (Except RoutingError Unit)) :
    Action (Channel F κ τ) (Except RoutingError Unit) := do
  if ← Action.read Channel.holdsSocket then onRegistry action
  else pure (.error (.notEnabled F.name))

def add (route : Route F) : Action (Channel F κ τ) (Except RoutingError Unit) :=
  whenEnabled (Registry.add route)

def remove (route : Route F) : Action (Channel F κ τ) (Except RoutingError Unit) :=
  whenEnabled (Registry.remove route)

def resolve (flow : Flow F) : Action (Channel F κ τ) (Except RoutingError Unit) :=
  whenEnabled (Registry.resolve flow)

def drop : Action (Channel F κ τ) Unit := do
  if ← Action.read Channel.holdsSocket then disable else pure ()

def isEnabled (channel : Channel F κ τ) : Bool := channel.phase = .enabled

end Channel

end Multicast
