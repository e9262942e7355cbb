import Multicast.Route.Install

/-!
Templates for any sender, and the routes derived from them. The kernel forwards only for known
senders, so a route for any sender is kept here, and a route is derived from it for each flow that
the kernel could not forward. A template takes everything derived from it along when it goes.
-/

namespace Multicast

structure Registry (F : Family) where
  templates : List (Route F)
  /-- Routes derived from templates, in the order in which they were first derived. -/
  instances : List (Route F)
  deriving DecidableEq

namespace Registry

variable {F : Family} {σ : Type} [RouteSocket F σ]

def empty : Registry F := ⟨[], []⟩

def isEmpty (registry : Registry F) : Bool :=
  registry.templates.isEmpty && registry.instances.isEmpty

/-- The first template for a group and the slot its traffic arrives on. -/
def template? (registry : Registry F) (group : F.Addr) (inbound : SlotIndex) : Option (Route F) :=
  registry.templates.find? (Route.isFor group inbound)

def instancesFor (registry : Registry F) (group : F.Addr) (inbound : SlotIndex) :
    List (Route F) :=
  registry.instances.filter (Route.isFor group inbound)

/-- An instance of the same sender, group and inbound slot is known. -/
def knows (registry : Registry F) (route : Route F) : Bool :=
  registry.instances.any fun known =>
    known.sender = route.sender && known.isFor route.group route.inbound

def addTemplate (route : Route F) (registry : Registry F) : Registry F :=
  { registry with templates := registry.templates ++ [route] }

/-- Keeps a derived route, unless it is known. Memory for the list is taken to be there: a failed
allocation, which would be warned of and leave the route out, is not modelled. -/
def track (route : Route F) (registry : Registry F) : Registry F :=
  if registry.knows route then registry
  else { registry with instances := registry.instances ++ [route] }

def forget (group : F.Addr) (inbound : SlotIndex) (registry : Registry F) : Registry F where
  templates := registry.templates.filter fun route => !route.isFor group inbound
  instances := registry.instances.filter fun route => !route.isFor group inbound

def templateAdded (route : Route F) : Event where
  level := .debug
  target := Target.registry
  message := "Adding template " ++ route.text
  fields := [("family", .quoted F.name), ("group", .text (Family.addrText route.group))]

def unmatched (flow : Flow F) : Event where
  level := .debug
  target := Target.registry
  message := "No (*,G) match for " ++ flow.text
  fields := [("family", .quoted F.name)]

/-- Keeps a route for any sender as a template; hands any other to the kernel, and keeps no track
of it. -/
def add (route : Route F) : Action (Registry F × σ) (Except RoutingError Unit) :=
  if route.isWildcard then do
    Action.log (templateAdded route)
    Action.onFst (Action.update (addTemplate route))
    pure (.ok ())
  else Action.onSnd route.install

/-- Installs a route for a flow, derived from the first template for it. The route is kept as an
instance whether or not the kernel takes it. -/
def resolve (flow : Flow F) : Action (Registry F × σ) (Except RoutingError Unit) := do
  match ← Action.read fun pair => pair.1.template? flow.group flow.inbound with
  | none =>
    Action.log (unmatched flow)
    pure (.error (.noMatchingTemplate (Family.addrText flow.group) flow.inbound))
  | some template =>
    let route := flow.toRoute template.outbound
    Action.onFst (Action.update (track route))
    Action.onSnd route.install

def dropTemplates (group : F.Addr) (inbound : SlotIndex) : Action (Registry F × σ) Unit := do
  let registry ← Action.read Prod.fst
  if (registry.template? group inbound).isSome then
    let _ ← Action.onSnd (Action.each Route.uninstall (registry.instancesFor group inbound))
    Action.onFst (Action.update (forget group inbound))
  else pure ()

/-- Takes a route out of the kernel, and answers how that went. With a route for any sender go all
templates for its group and slot, and what was derived from them. -/
def remove (route : Route F) : Action (Registry F × σ) (Except RoutingError Unit) := do
  if route.isWildcard then dropTemplates route.group route.inbound else pure ()
  Action.onSnd route.uninstall

end Registry

end Multicast
