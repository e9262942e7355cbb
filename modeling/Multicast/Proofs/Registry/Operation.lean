import Multicast.Kernel.Scripted
import Multicast.Registry

/-!
# Operations of a registry

What one operation does to the two lists, and which calls it makes to the socket. Both follow from
the lists alone: no answer of the socket has a part in them, so a run over a failing socket leaves
the same lists as a run over one that takes everything.
-/

namespace Multicast

open Multicast.Action

variable {F : Family} {σ : Type} [RouteSocket F σ]

def RouteCall.apply (socket : σ) : RouteCall F → σ
  | .add route => (RouteSocket.addRoute route socket).2
  | .del route => (RouteSocket.delRoute route socket).2

namespace Route

@[simp]
theorem state_install (route : Route F) (socket : σ) :
    (route.install socket).state = (RouteCall.add route).apply socket := by
  simp only [install, state_bind, log_apply, call_apply]
  cases (RouteSocket.addRoute route socket).1 <;> rfl

theorem answer_install (route : Route F) (socket : σ) :
    (route.install socket).answer =
      (RouteSocket.addRoute route socket).1.mapError
        (RoutingError.kernel F.name F.calls.addRoute) := by
  simp only [install, answer_bind, log_apply, call_apply]
  cases (RouteSocket.addRoute route socket).1 <;> rfl

@[simp]
theorem state_uninstall (route : Route F) (socket : σ) :
    (route.uninstall socket).state = (RouteCall.del route).apply socket := by
  simp only [uninstall, state_bind, log_apply, call_apply]
  cases (RouteSocket.delRoute route socket).1 <;> rfl

theorem answer_uninstall (route : Route F) (socket : σ) :
    (route.uninstall socket).answer =
      (RouteSocket.delRoute route socket).1.mapError
        (RoutingError.kernel F.name F.calls.delRoute) := by
  simp only [uninstall, answer_bind, log_apply, call_apply]
  cases (RouteSocket.delRoute route socket).1 <;> rfl

theorem state_each_uninstall (routes : List (Route F)) (socket : σ) :
    (Action.each uninstall routes socket).state =
      (routes.map RouteCall.del).foldl RouteCall.apply socket := by
  induction routes generalizing socket with
  | nil => rfl
  | cons route rest ih => simp [ih]

end Route

namespace Registry

inductive Operation (F : Family) where
  | add (route : Route F)
  | remove (route : Route F)
  | resolve (flow : Flow F)
  | clear

namespace Operation

def perform : Operation F → Action (Registry F × σ) (Except RoutingError Unit)
  | add route => Registry.add route
  | remove route => Registry.remove route
  | resolve flow => Registry.resolve flow
  | clear => do
    Action.onFst (Action.update fun _ => .empty)
    pure (.ok ())

def effect (registry : Registry F) : Operation F → Registry F
  | add route => if route.isWildcard then registry.addTemplate route else registry
  | remove route =>
    if route.isWildcard && (registry.template? route.group route.inbound).isSome then
      registry.forget route.group route.inbound
    else registry
  | resolve flow =>
    match registry.template? flow.group flow.inbound with
    | none => registry
    | some template => registry.track (flow.toRoute template.outbound)
  | clear => .empty

def calls (registry : Registry F) : Operation F → List (RouteCall F)
  | add route => if route.isWildcard then [] else [.add route]
  | remove route =>
    if route.isWildcard && (registry.template? route.group route.inbound).isSome then
      (registry.instancesFor route.group route.inbound).map .del ++ [.del route]
    else [.del route]
  | resolve flow =>
    match registry.template? flow.group flow.inbound with
    | none => []
    | some template => [.add (flow.toRoute template.outbound)]
  | clear => []

end Operation

theorem state_add (route : Route F) (registry : Registry F) (socket : σ) :
    (add route (registry, socket)).state =
      (Operation.effect registry (.add route),
        (Operation.calls registry (.add route)).foldl RouteCall.apply socket) := by
  by_cases hwild : route.isWildcard = true <;> simp [add, Operation.effect, Operation.calls, hwild]

theorem state_resolve (flow : Flow F) (registry : Registry F) (socket : σ) :
    (resolve flow (registry, socket)).state =
      (Operation.effect registry (.resolve flow),
        (Operation.calls registry (.resolve flow)).foldl RouteCall.apply socket) := by
  cases htemplate : registry.template? flow.group flow.inbound <;>
    simp [resolve, Operation.effect, Operation.calls, htemplate]

theorem state_dropTemplates (group : F.Addr) (inbound : SlotIndex) (registry : Registry F)
    (socket : σ) :
    (dropTemplates group inbound (registry, socket)).state =
      if (registry.template? group inbound).isSome then
        (registry.forget group inbound,
          ((registry.instancesFor group inbound).map RouteCall.del).foldl RouteCall.apply socket)
      else (registry, socket) := by
  by_cases hsome : (registry.template? group inbound).isSome = true <;>
    simp [dropTemplates, Route.state_each_uninstall, hsome]

theorem state_remove (route : Route F) (registry : Registry F) (socket : σ) :
    (remove route (registry, socket)).state =
      (Operation.effect registry (.remove route),
        (Operation.calls registry (.remove route)).foldl RouteCall.apply socket) := by
  by_cases hwild : route.isWildcard = true
  · by_cases hsome : (registry.template? route.group route.inbound).isSome = true <;>
      simp [remove, Operation.effect, Operation.calls, state_dropTemplates, hwild, hsome]
  · simp [remove, Operation.effect, Operation.calls, hwild]

/-- The lists and the calls follow from the lists before the operation. -/
theorem state_perform (operation : Operation F) (registry : Registry F) (socket : σ) :
    (operation.perform (registry, socket)).state =
      (operation.effect registry, (operation.calls registry).foldl RouteCall.apply socket) := by
  cases operation with
  | add route => exact state_add route registry socket
  | remove route => exact state_remove route registry socket
  | resolve flow => exact state_resolve flow registry socket
  | clear => rfl

def run (operations : List (Operation F)) :
    Action (Registry F × σ) (List (Except RoutingError Unit)) :=
  Action.each Operation.perform operations

end Registry

end Multicast
