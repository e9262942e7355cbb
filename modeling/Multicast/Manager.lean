import Multicast.Channel
import Multicast.Config

/-!
The manager drives both families from one configuration: it enables the families that are asked
for, and adds the configured routes to their channels once it is known which slots the interfaces
got.
-/

namespace Multicast

structure Summary where
  applied : Nat := 0
  failed : Nat := 0
  skipped : Nat := 0
  deriving DecidableEq

inductive Applied where
  | applied
  | failed
  | skipped
  deriving DecidableEq

namespace Summary

def count (summary : Summary) : Applied → Summary
  | .applied => { summary with applied := summary.applied + 1 }
  | .failed => { summary with failed := summary.failed + 1 }
  | .skipped => { summary with skipped := summary.skipped + 1 }

def ofList (results : List Applied) : Summary := results.foldl count {}

end Summary

structure Manager (κ₄ κ₆ τ : Type) where
  config : Config
  /-- The interfaces with the slots that the families last gave them. -/
  interfaces : InterfaceTable := .empty
  ipv4 : Channel .ipv4 κ₄ τ
  ipv6 : Channel .ipv6 κ₆ τ
  deriving DecidableEq

namespace RouteEntry

def slotOf (F : Family) (interfaces : InterfaceTable) (name : String) :
    Except DaemonError SlotIndex :=
  match interfaces.findByName? name with
  | none => .error (.unknownInterface name)
  | some iface =>
    match F.slotOf iface with
    | some slot => .ok slot
    | none => .error (.noSlot name F.slotKind)

def notOfFamily (F : Family) (entry : RouteEntry) : DaemonError :=
  .configuration (entry.text ++ ": not an " ++ F.name ++ " route")

def narrow (F : Family) (entry : RouteEntry) (addr : Address) : Except DaemonError F.Addr :=
  match F.narrow? addr with
  | some addr => .ok addr
  | none => .error (entry.notOfFamily F)

def senderOf (F : Family) (entry : RouteEntry) : Except DaemonError (Option F.Addr) :=
  match entry.source with
  | .any => .ok none
  | .host addr => (entry.narrow F addr).map some

/-- The route of a family that an entry asks for, with its interfaces' slots in place of their
names. -/
def toRoute (F : Family) (interfaces : InterfaceTable) (defaultTtl : UInt8) (entry : RouteEntry) :
    Except DaemonError (Route F) := do
  let group ← entry.narrow F entry.group.address
  let sender ← entry.senderOf F
  let inbound ← slotOf F interfaces entry.inbound
  let slots ← entry.outbound.mapM (slotOf F interfaces)
  let ttl := entry.ttlOr defaultTtl
  let outbound := slots.foldl (fun out slot => Family.Outbound.set out slot ttl)
    Family.Outbound.empty
  return { sender, group, inbound, outbound }

end RouteEntry

namespace Manager

variable {F : Family} {κ κ₄ κ₆ τ α : Type}

def scope (name : String) : Scope := { name, target := Target.manager }

def familyField (F : Family) : String × FieldValue := ("family", .quoted F.name)

def routeField (entry : RouteEntry) : String × FieldValue := ("route", .text entry.text)

def enableFailed (F : Family) (err : RoutingError) : Event where
  level := .error
  target := Target.manager
  message := err.message
  fields := [familyField F]

def familyDisabled (F : Family) (err : RoutingError) : Event where
  level := .warn
  target := Target.manager
  message := F.name ++ " multicast routing disabled: " ++ err.message
  fields := [familyField F]

def routeSkipped (F : Family) (entry : RouteEntry) : Event where
  level := .debug
  target := Target.manager
  message := "Family not enabled, skipping"
  fields := [familyField F, routeField entry]

def routeFailed (entry : RouteEntry) (err : DaemonError) : Event where
  level := .warn
  target := Target.manager
  message := "Failed to apply route: " ++ err.message
  fields := [routeField entry]

def routesApplied (summary : Summary) : Event where
  level := .info
  target := Target.manager
  message := "Applied static multicast routes"
  fields :=
    [("applied", .number summary.applied), ("failed", .number summary.failed),
      ("skipped", .number summary.skipped)]

def onIPv4 (action : Action (Channel .ipv4 κ₄ τ) α) : Action (Manager κ₄ κ₆ τ) α :=
  Action.on Manager.ipv4 (fun ipv4 manager => { manager with ipv4 }) action

def onIPv6 (action : Action (Channel .ipv6 κ₆ τ) α) : Action (Manager κ₄ κ₆ τ) α :=
  Action.on Manager.ipv6 (fun ipv6 manager => { manager with ipv6 }) action

variable [Kernel F κ] [Kernel .ipv4 κ₄] [Kernel .ipv6 κ₆] [Sysctl τ]

/-- Enables a family and answers the table with its slots. A family that the kernel cannot run is
left out; only a fatal failure is answered. -/
def enableFamily (interfaces : InterfaceTable) :
    Action (Channel F κ τ) (Except DaemonError InterfaceTable) := do
  match ← Channel.enable interfaces with
  | .ok annotated => pure (.ok annotated)
  | .error err =>
    if err.isFatal then
      Action.log (enableFailed F err)
      pure (.error (.routing err))
    else
      Action.log (familyDisabled F err)
      pure (.ok interfaces)

def applyEntry (interfaces : InterfaceTable) (defaultTtl : UInt8) (entry : RouteEntry) :
    Action (Channel F κ τ) Applied := do
  if ← Action.read Channel.isEnabled then
    let result ←
      match entry.toRoute F interfaces defaultTtl with
      | .error err => pure (.error err)
      | .ok route => do
        let added ← Channel.add route
        pure (added.mapError DaemonError.routing)
    match result with
    | .ok () => pure .applied
    | .error err =>
      Action.log (routeFailed entry err)
      pure .failed
  else
    Action.log (routeSkipped F entry)
    pure .skipped

def applyOne (interfaces : InterfaceTable) (defaultTtl : UInt8) (entry : RouteEntry) :
    Action (Manager κ₄ κ₆ τ) Applied :=
  if entry.group.isIPv4 then onIPv4 (applyEntry interfaces defaultTtl entry)
  else onIPv6 (applyEntry interfaces defaultTtl entry)

/-- Applies the configured routes in their order. One that fails does not keep the others back. -/
def applyRoutes : Action (Manager κ₄ κ₆ τ) Summary := do
  let config ← Action.read Manager.config
  let interfaces ← Action.read Manager.interfaces
  let results ← Action.each (applyOne interfaces config.daemon.defaultTtl) config.routes
  pure (Summary.ofList results)

def enableWanted (F : Family)
    (enable : InterfaceTable → Action (Manager κ₄ κ₆ τ) (Except DaemonError InterfaceTable)) :
    Action (Manager κ₄ κ₆ τ) (Except DaemonError Unit) := do
  if (← Action.read Manager.config).wants F then
    match ← enable (← Action.read Manager.interfaces) with
    | .ok interfaces =>
      Action.update fun manager => { manager with interfaces }
      pure (.ok ())
    | .error err => pure (.error err)
  else pure (.ok ())

/-- Enables what the configuration asks for on these interfaces, IPv4 first, and applies the
routes. -/
def start (interfaces : InterfaceTable) :
    Action (Manager κ₄ κ₆ τ) (Except DaemonError Summary) :=
  Action.within (scope "start") do
    Action.update fun manager => { manager with interfaces }
    match ← enableWanted .ipv4 fun table => onIPv4 (enableFamily table) with
    | .error err => pure (.error err)
    | .ok () =>
      match ← enableWanted .ipv6 fun table => onIPv6 (enableFamily table) with
      | .error err => pure (.error err)
      | .ok () =>
        let summary ← applyRoutes
        Action.log (routesApplied summary)
        pure (.ok summary)

def stop : Action (Manager κ₄ κ₆ τ) Unit := do
  onIPv4 Channel.disable
  onIPv6 Channel.disable

def reload (config : Config) (interfaces : InterfaceTable) :
    Action (Manager κ₄ κ₆ τ) (Except DaemonError Summary) :=
  Action.within (scope "reload") do
    stop
    Action.update fun manager => { manager with config }
    start interfaces

def drop : Action (Manager κ₄ κ₆ τ) Unit := do
  onIPv4 Channel.drop
  onIPv6 Channel.drop

/-- A manager with fresh channels. The configuration says which switch goes with IPv6. -/
def ofConfig (config : Config) (ipv4 : κ₄) (ipv6 : κ₆) (sysctl : τ) : Manager κ₄ κ₆ τ where
  config := config
  ipv4 := { kernel := ipv4, sysctl }
  ipv6 :=
    { kernel := ipv6
      sysctl
      forwardingSwitch := config.daemon.forwardingSwitch.filter fun path => !path.isEmpty }

end Manager

end Multicast
