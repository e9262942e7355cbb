import Mathlib.Data.List.Nodup
import Multicast.Proofs.Registry.Operation

/-!
# Coherent registries

A registry is coherent when its templates are routes for any sender, no flow has two instances, and
each instance forwards where the first template for it does. The last point is what keeps a second
template for a group and slot from ever mattering: removal takes all templates of a group and slot
at once, together with their instances, so the first of them never changes under an instance.
-/

namespace Multicast

variable {F : Family} {σ : Type} [RouteSocket F σ]

namespace Route

/-- What makes two routes one flow. -/
def flowKey (route : Route F) : Option F.Addr × F.Addr × SlotIndex :=
  (route.sender, route.group, route.inbound)

@[simp]
theorem isFor_iff {route : Route F} {group : F.Addr} {inbound : SlotIndex} :
    route.isFor group inbound = true ↔ route.group = group ∧ route.inbound = inbound := by
  simp [isFor]

@[simp]
theorem isFor_eq_false_iff {route : Route F} {group : F.Addr} {inbound : SlotIndex} :
    route.isFor group inbound = false ↔ ¬ (route.group = group ∧ route.inbound = inbound) := by
  rw [← Bool.not_eq_true, isFor_iff]

end Route

namespace Registry

variable {registry : Registry F} {group : F.Addr} {inbound : SlotIndex}

theorem knows_iff {route : Route F} :
    registry.knows route = true ↔ route.flowKey ∈ registry.instances.map Route.flowKey := by
  simp [knows, Route.flowKey]

/-! ### Looking a template up -/

theorem template?_eq_some_iff {template : Route F} :
    registry.template? group inbound = some template ↔
      ∃ before after, registry.templates = before ++ template :: after ∧
        (template.group = group ∧ template.inbound = inbound) ∧
        ∀ earlier ∈ before, ¬ (earlier.group = group ∧ earlier.inbound = inbound) := by
  simp only [template?, List.find?_eq_some_iff_append, Route.isFor_iff, Bool.not_eq_true',
    Route.isFor_eq_false_iff]
  grind

theorem template?_addTemplate_of_some {template : Route F} (route : Route F)
    (htemplate : registry.template? group inbound = some template) :
    (registry.addTemplate route).template? group inbound = some template := by
  unfold template? at htemplate
  simp [template?, addTemplate, List.find?_append, htemplate]

theorem template?_forget_of_ne {other : F.Addr} {otherInbound : SlotIndex}
    (hne : ¬ (group = other ∧ inbound = otherInbound)) :
    (registry.forget other otherInbound).template? group inbound =
      registry.template? group inbound := by
  unfold template? forget
  rw [List.find?_filter]
  congr 1
  funext route
  by_cases hroute : route.isFor group inbound = true
  · have hother : route.isFor other otherInbound = false := by
      obtain ⟨hgroup, hinbound⟩ := Route.isFor_iff.mp hroute
      rw [Route.isFor_eq_false_iff, hgroup, hinbound]
      exact hne
    simp [hroute, hother]
  · simp [hroute]

/-! ### Coherence -/

structure Coherent (registry : Registry F) : Prop where
  templates_wildcard : ∀ template ∈ registry.templates, template.isWildcard = true
  instances_distinct : (registry.instances.map Route.flowKey).Nodup
  instances_derived : ∀ known ∈ registry.instances, ∃ template,
    registry.template? known.group known.inbound = some template ∧
      known.outbound = template.outbound

theorem coherent_empty : (empty : Registry F).Coherent where
  templates_wildcard := by simp [empty]
  instances_distinct := by simp [empty]
  instances_derived := by simp [empty]

theorem Coherent.addTemplate {route : Route F} (hcoherent : registry.Coherent)
    (hwild : route.isWildcard = true) : (registry.addTemplate route).Coherent where
  templates_wildcard := by
    intro template hmem
    rcases List.mem_append.mp hmem with hold | hnew
    · exact hcoherent.templates_wildcard template hold
    · exact List.mem_singleton.mp hnew ▸ hwild
  instances_distinct := hcoherent.instances_distinct
  instances_derived := by
    intro known hmem
    obtain ⟨template, htemplate, hout⟩ := hcoherent.instances_derived known hmem
    -- a template that is added is the last, so the first one stays the first
    exact ⟨template, template?_addTemplate_of_some route htemplate, hout⟩

theorem Coherent.track (hcoherent : registry.Coherent) (route : Route F) {template : Route F}
    (htemplate : registry.template? route.group route.inbound = some template)
    (hout : route.outbound = template.outbound) : (registry.track route).Coherent := by
  by_cases hknows : registry.knows route = true
  · simpa [Registry.track, hknows] using hcoherent
  have hfresh : route.flowKey ∉ registry.instances.map Route.flowKey := mt knows_iff.mpr hknows
  rw [Registry.track, if_neg hknows]
  refine ⟨hcoherent.templates_wildcard, ?_, ?_⟩
  · rw [List.map_append, List.map_singleton, List.nodup_append']
    exact ⟨hcoherent.instances_distinct, List.nodup_singleton _, by simpa using hfresh⟩
  · intro known hmem
    rcases List.mem_append.mp hmem with hold | hnew
    · exact hcoherent.instances_derived known hold
    · rw [List.mem_singleton.mp hnew]
      exact ⟨template, htemplate, hout⟩

theorem Coherent.forget (hcoherent : registry.Coherent) (group : F.Addr) (inbound : SlotIndex) :
    (registry.forget group inbound).Coherent where
  templates_wildcard := fun template hmem =>
    hcoherent.templates_wildcard template (List.mem_of_mem_filter hmem)
  instances_distinct :=
    hcoherent.instances_distinct.sublist (List.filter_sublist.map Route.flowKey)
  instances_derived := by
    intro known hmem
    obtain ⟨hold, hother⟩ := List.mem_filter.mp hmem
    obtain ⟨template, htemplate, hout⟩ := hcoherent.instances_derived known hold
    have hne : ¬ (known.group = group ∧ known.inbound = inbound) := by simpa using hother
    exact ⟨template, (template?_forget_of_ne hne).trans htemplate, hout⟩

theorem Coherent.instancesFor_eq_nil (hcoherent : registry.Coherent)
    (hnone : registry.template? group inbound = none) :
    registry.instancesFor group inbound = [] := by
  refine List.filter_eq_nil_iff.mpr fun known hmem hfor => ?_
  obtain ⟨rfl, rfl⟩ := Route.isFor_iff.mp hfor
  obtain ⟨template, htemplate, -⟩ := hcoherent.instances_derived known hmem
  simp [hnone] at htemplate

/-- Removing a template of which there is none deletes no instance, since there are none: the calls
are the same with a template and without. -/
theorem Coherent.calls_remove (hcoherent : registry.Coherent) {route : Route F}
    (hwild : route.isWildcard = true) :
    Operation.calls registry (.remove route) =
      (registry.instancesFor route.group route.inbound).map .del ++ [.del route] := by
  cases htemplate : registry.template? route.group route.inbound with
  | none =>
      simp [Operation.calls, hwild, htemplate, hcoherent.instancesFor_eq_nil htemplate]
  | some template => simp [Operation.calls, hwild, htemplate]

theorem Coherent.instances_remove (hcoherent : registry.Coherent) {route : Route F}
    (hwild : route.isWildcard = true) :
    (Operation.effect registry (.remove route)).instances =
      registry.instances.filter fun known => !known.isFor route.group route.inbound := by
  cases htemplate : registry.template? route.group route.inbound with
  | none =>
      have hnil := List.filter_eq_nil_iff.mp (hcoherent.instancesFor_eq_nil htemplate)
      simp only [Operation.effect, htemplate, Option.isSome_none, Bool.and_false,
        Bool.false_eq_true, if_false]
      exact (List.filter_eq_self.mpr fun known hmem => by simpa using hnil known hmem).symm
  | some template => simp [Operation.effect, hwild, htemplate, Registry.forget]

theorem Coherent.effect (hcoherent : registry.Coherent) (operation : Operation F) :
    (operation.effect registry).Coherent := by
  cases operation with
  | add route =>
      by_cases hwild : route.isWildcard = true
      · simpa [Operation.effect, hwild] using hcoherent.addTemplate hwild
      · simpa [Operation.effect, hwild] using hcoherent
  | remove route =>
      simp only [Operation.effect]
      split
      · exact hcoherent.forget route.group route.inbound
      · exact hcoherent
  | resolve flow =>
      cases htemplate : registry.template? flow.group flow.inbound with
      | none => simpa [Operation.effect, htemplate] using hcoherent
      | some template =>
          simpa [Operation.effect, htemplate] using
            hcoherent.track (flow.toRoute template.outbound) htemplate rfl
  | clear => exact coherent_empty

theorem Coherent.mem_track (hcoherent : registry.Coherent) (route : Route F) {template : Route F}
    (htemplate : registry.template? route.group route.inbound = some template)
    (hout : route.outbound = template.outbound) : route ∈ (registry.track route).instances := by
  by_cases hknows : registry.knows route = true
  · obtain ⟨known, hmem, hkey⟩ := List.mem_map.mp (knows_iff.mp hknows)
    simp only [Route.flowKey, Prod.mk.injEq] at hkey
    obtain ⟨first, hfirst, hknown⟩ := hcoherent.instances_derived known hmem
    rw [hkey.2.1, hkey.2.2, htemplate, Option.some_inj] at hfirst
    have hsame : known = route := by
      rw [Route.mk.injEq]
      exact ⟨hkey.1, hkey.2.1, hkey.2.2, by rw [hknown, ← hfirst, hout]⟩
    simpa [Registry.track, hknows, hsame] using hmem
  · simp [Registry.track, hknows]

theorem coherent_run (hcoherent : registry.Coherent) (operations : List (Operation F))
    (socket : σ) : (run operations (registry, socket)).state.1.Coherent := by
  have hstep : ∀ operation ∈ operations, ∀ pair : Registry F × σ, pair.1.Coherent →
      (operation.perform pair).state.1.Coherent := by
    rintro operation - ⟨before, socket⟩ hbefore
    rw [state_perform]
    exact hbefore.effect operation
  exact Action.state_each_of_forall (fun pair : Registry F × σ => pair.1.Coherent) hstep hcoherent

/-- **The lists stay coherent:** templates are for any sender, instances are distinct as flows, and
each goes where the first template for its group and slot goes. -/
theorem coherent_run_empty (operations : List (Operation F)) (socket : σ) :
    let registry := (run operations (empty, socket)).state.1
    (∀ template ∈ registry.templates, template.isWildcard = true) ∧
      (registry.instances.map fun known => (known.sender, known.group, known.inbound)).Nodup ∧
      ∀ known ∈ registry.instances, ∃ before template after,
        registry.templates = before ++ template :: after ∧
          (template.group = known.group ∧ template.inbound = known.inbound) ∧
          (∀ earlier ∈ before,
            ¬ (earlier.group = known.group ∧ earlier.inbound = known.inbound)) ∧
          known.outbound = template.outbound := by
  intro registry
  have hcoherent : registry.Coherent := coherent_run coherent_empty operations socket
  refine ⟨hcoherent.templates_wildcard, hcoherent.instances_distinct, ?_⟩
  intro known hmem
  obtain ⟨template, htemplate, hout⟩ := hcoherent.instances_derived known hmem
  obtain ⟨before, after, hsplit, hfor, hfirst⟩ := template?_eq_some_iff.mp htemplate
  exact ⟨before, template, after, hsplit, hfor, hfirst, hout⟩

end Registry

end Multicast
