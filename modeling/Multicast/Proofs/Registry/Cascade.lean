import Multicast.Proofs.Registry.Coherence
import Multicast.Proofs.Registry.Transcript

/-!
# What goes with a template

Removing a template deletes what was derived from it, one route after the other, and the route for
any sender last. No deletion waits for another to succeed: the lists lose the same entries however
the socket answers, and what it says to the last deletion is the answer to the removal.
-/

namespace Multicast

open Multicast.Action

variable {F : Family} {σ σ' : Type} [RouteSocket F σ] [RouteSocket F σ']

namespace Registry

variable {registry : Registry F}

/-- The instances that are deleted ahead of a route. -/
def cascade (registry : Registry F) (route : Route F) : List (Route F) :=
  if route.isWildcard then registry.instancesFor route.group route.inbound else []

theorem cascade_of_wildcard {route : Route F} (hwild : route.isWildcard = true) :
    registry.cascade route = registry.instancesFor route.group route.inbound :=
  if_pos hwild

theorem cascade_of_concrete {route : Route F} (hconcrete : route.isWildcard = false) :
    registry.cascade route = [] := by
  rw [cascade, hconcrete, if_neg Bool.false_ne_true]

theorem Coherent.calls_remove_eq (hcoherent : registry.Coherent) (route : Route F) :
    Operation.calls registry (.remove route) =
      (registry.cascade route).map .del ++ [.del route] := by
  cases hwild : route.isWildcard with
  | true => rw [hcoherent.calls_remove hwild, cascade_of_wildcard hwild]
  | false => simp [Operation.calls, cascade_of_concrete hwild, hwild]

/-- The look-up of a template decides nothing for the list of templates: where none is found, none
is filtered out. -/
theorem templates_remove {route : Route F} (hwild : route.isWildcard = true) :
    (Operation.effect registry (.remove route)).templates =
      registry.templates.filter fun template => !template.isFor route.group route.inbound := by
  cases htemplate : registry.template? route.group route.inbound with
  | some template => simp [Operation.effect, hwild, htemplate, forget]
  | none =>
      have hnone := List.find?_eq_none.mp htemplate
      simp only [Operation.effect, htemplate, Option.isSome_none, Bool.and_false,
        Bool.false_eq_true, if_false]
      exact (List.filter_eq_self.mpr fun template hmem => by simpa using hnone template hmem).symm

theorem effect_remove_of_concrete {route : Route F} (hconcrete : route.isWildcard = false) :
    Operation.effect registry (.remove route) = registry := by
  simp [Operation.effect, hconcrete]

theorem effect_remove_of_forall_not_isFor {route : Route F}
    (hnone : ∀ template ∈ registry.templates,
      template.isFor route.group route.inbound = false) :
    Operation.effect registry (.remove route) = registry := by
  have htemplate : registry.template? route.group route.inbound = none :=
    List.find?_eq_none.mpr fun template hmem => by simp [hnone template hmem]
  simp [Operation.effect, htemplate]

/-- A removal is answered as its last deletion is, which comes after the cascade. -/
theorem Coherent.answer_remove (hcoherent : registry.Coherent) (route : Route F) (socket : σ) :
    (remove route (registry, socket)).answer =
      (RouteSocket.delRoute route
        (((registry.cascade route).map RouteCall.del).foldl RouteCall.apply socket)).1.mapError
          (RoutingError.kernel F.name F.calls.delRoute) := by
  rw [← Route.answer_uninstall]
  cases hwild : route.isWildcard with
  | false => simp [remove, hwild, cascade_of_concrete hwild]
  | true =>
      rw [cascade_of_wildcard hwild]
      cases htemplate : registry.template? route.group route.inbound with
      | some template => simp [remove, hwild, state_dropTemplates, htemplate]
      | none =>
          simp [remove, hwild, state_dropTemplates, htemplate,
            hcoherent.instancesFor_eq_nil htemplate]

/-- **A template takes along exactly what was derived from it:** the instances for its group and
slot are deleted in their order, then the route itself, and of both lists just what is for this
group and slot is gone. -/
theorem remove_cascades (operations : List (Operation F)) (socket : σ) (route : Route F)
    (other : σ') :
    let registry := (run operations (empty, socket)).state.1
    let removed := remove route (registry, (⟨other, []⟩ : Traced F σ'))
    let derived := registry.instances.filter (Route.isFor route.group route.inbound)
    (route.isWildcard = true →
      removed.state.2.calls = derived.map .del ++ [.del route] ∧
        removed.state.1.templates =
          registry.templates.filter (fun template => !template.isFor route.group route.inbound) ∧
        removed.state.1.instances =
          registry.instances.filter (fun known => !known.isFor route.group route.inbound) ∧
        removed.answer =
          (RouteSocket.delRoute route
            ((derived.map RouteCall.del).foldl RouteCall.apply other)).1.mapError
              (RoutingError.kernel F.name F.calls.delRoute)) ∧
      (route.isWildcard = false →
        removed.state.2.calls = [.del route] ∧ removed.state.1 = registry ∧
          removed.answer = (RouteSocket.delRoute route other).1.mapError
            (RoutingError.kernel F.name F.calls.delRoute)) ∧
      ((∀ template ∈ registry.templates, template.isFor route.group route.inbound = false) →
        removed.state.1 = registry) := by
  intro registry removed derived
  have hcoherent : registry.Coherent := coherent_run coherent_empty operations socket
  have hcalls : removed.state.2.calls = (registry.cascade route).map .del ++ [.del route] := by
    rw [← hcoherent.calls_remove_eq]
    exact calls_perform (.remove route) registry (⟨other, []⟩ : Traced F σ')
  have hlists : removed.state.1 = Operation.effect registry (.remove route) :=
    congrArg Prod.fst (state_remove route registry (⟨other, []⟩ : Traced F σ'))
  have hanswer : removed.answer =
      (RouteSocket.delRoute route
        (((registry.cascade route).map RouteCall.del).foldl RouteCall.apply other)).1.mapError
          (RoutingError.kernel F.name F.calls.delRoute) := by
    rw [← Traced.socket_foldl_apply _ (⟨other, []⟩ : Traced F σ')]
    exact hcoherent.answer_remove route (⟨other, []⟩ : Traced F σ')
  refine ⟨fun hwild => ?_, fun hconcrete => ?_, fun hnone => ?_⟩
  · rw [cascade_of_wildcard hwild] at hcalls hanswer
    rw [hlists]
    exact ⟨hcalls, templates_remove hwild, hcoherent.instances_remove hwild, hanswer⟩
  · rw [cascade_of_concrete hconcrete] at hcalls hanswer
    exact ⟨hcalls, hlists.trans (effect_remove_of_concrete hconcrete), hanswer⟩
  · exact hlists.trans (effect_remove_of_forall_not_isFor hnone)

def across (inbound outbound : SlotIndex) : Route .ipv4 :=
  .wildcard ⟨239, 1, 1, 1⟩ inbound (Family.Outbound.set .empty outbound 1)

def sentBy (host : UInt8) (inbound : SlotIndex) : Flow .ipv4 :=
  ⟨⟨10, 0, 0, host⟩, ⟨239, 1, 1, 1⟩, inbound⟩

/-- Two hosts send by the first slot, and one of them by the second as well. -/
def crossing : List (Operation .ipv4) :=
  [.add (across 0 1), .add (across 1 0), .resolve (sentBy 5 0), .resolve (sentBy 5 1),
    .resolve (sentBy 6 0)]

theorem crossing_cascades :
    let registry := (run crossing (empty, ({} : ScriptedSocket .ipv4))).state.1
    let socket : ScriptedSocket .ipv4 := { dels := { queue := [some 2, none, some 22] } }
    let removed := remove (across 0 1) (registry, (⟨socket, []⟩ : Traced .ipv4 _))
    let first := (sentBy 5 0).toRoute (across 0 1).outbound
    let second := (sentBy 6 0).toRoute (across 0 1).outbound
    let other := (sentBy 5 1).toRoute (across 1 0).outbound
    (across 0 1).isWildcard = true ∧ other.isWildcard = false ∧
      (∀ template ∈ registry.templates, template.isFor (across 2 0).group 2 = false) ∧
      removed.state.2.calls = [.del first, .del second, .del (across 0 1)] ∧
      removed.state.1.templates = [across 1 0] ∧ removed.state.1.instances = [other] ∧
      removed.answer = .error (.kernel "IPv4" "MRT_DEL_MFC" (.errno 22)) ∧
      (remove other (registry, (⟨socket, []⟩ : Traced .ipv4 _))).state.1 = registry ∧
      (remove (across 2 0) (registry, (⟨socket, []⟩ : Traced .ipv4 _))).state.1 = registry := by
  intro registry socket removed first second other
  have hwild : (across 0 1).isWildcard = true := by decide
  have hconcrete : other.isWildcard = false := by decide
  have hnone : ∀ template ∈ registry.templates,
      template.isFor (across 2 0).group 2 = false := by decide +kernel
  obtain ⟨hcalls, htemplates, hinstances, hanswer⟩ :=
    (remove_cascades crossing ({} : ScriptedSocket .ipv4) (across 0 1) socket).1 hwild
  refine ⟨hwild, hconcrete, hnone, ?_, ?_, ?_, ?_, ?_, ?_⟩
  · exact hcalls.trans (by decide +kernel)
  · exact htemplates.trans (by decide +kernel)
  · exact hinstances.trans (by decide +kernel)
  · exact hanswer.trans (by rfl)
  · exact ((remove_cascades crossing ({} : ScriptedSocket .ipv4) other socket).2.1 hconcrete).2.1
  · exact (remove_cascades crossing ({} : ScriptedSocket .ipv4) (across 2 0) socket).2.2 hnone

end Registry

end Multicast
