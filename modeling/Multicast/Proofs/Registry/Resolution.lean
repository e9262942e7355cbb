import Multicast.Proofs.Registry.Coherence

/-!
# Resolving flows

Resolving a flow changes no template, so what is derived for a flow does not depend on the flows
before it. After any number of flows the instances are those that were there before and the routes
derived for the flows, each of them once.
-/

namespace Multicast

variable {F : Family}

namespace Registry

variable {registry : Registry F}

def derived? (registry : Registry F) (flow : Flow F) : Option (Route F) :=
  (registry.template? flow.group flow.inbound).map fun template => flow.toRoute template.outbound

def trackAll (routes : List (Route F)) (registry : Registry F) : Registry F :=
  routes.foldl (fun kept route => kept.track route) registry

theorem trackAll_append (routes others : List (Route F)) (registry : Registry F) :
    registry.trackAll (routes ++ others) = (registry.trackAll routes).trackAll others :=
  List.foldl_append

theorem isSome_derived? (flow : Flow F) :
    (registry.derived? flow).isSome = (registry.template? flow.group flow.inbound).isSome :=
  Option.isSome_map

theorem effect_resolve (flow : Flow F) (registry : Registry F) :
    Operation.effect registry (.resolve flow) =
      registry.trackAll (registry.derived? flow).toList := by
  cases htemplate : registry.template? flow.group flow.inbound <;>
    simp [Operation.effect, derived?, trackAll, htemplate]

theorem calls_resolve (flow : Flow F) (registry : Registry F) :
    Operation.calls registry (.resolve flow) = (registry.derived? flow).toList.map .add := by
  cases htemplate : registry.template? flow.group flow.inbound <;>
    simp [Operation.calls, derived?, htemplate]

theorem templates_track (route : Route F) (registry : Registry F) :
    (registry.track route).templates = registry.templates := by
  unfold track
  split <;> rfl

theorem templates_trackAll (routes : List (Route F)) (registry : Registry F) :
    (registry.trackAll routes).templates = registry.templates := by
  induction routes generalizing registry with
  | nil => rfl
  | cons route rest ih => exact (ih (registry.track route)).trans (templates_track route registry)

theorem derived?_congr {other : Registry F} (hsame : registry.templates = other.templates)
    (flow : Flow F) : registry.derived? flow = other.derived? flow := by
  rw [derived?, derived?, template?, template?, hsame]

/-- The route goes where the first template for it does. -/
def Sanctions (registry : Registry F) (route : Route F) : Prop :=
  ∃ template, registry.template? route.group route.inbound = some template ∧
    route.outbound = template.outbound

theorem sanctions_of_derived? {flow : Flow F} {route : Route F}
    (hderived : registry.derived? flow = some route) : registry.Sanctions route := by
  obtain ⟨template, htemplate, rfl⟩ := Option.map_eq_some_iff.mp hderived
  exact ⟨template, htemplate, rfl⟩

theorem Coherent.mem_track_iff (hcoherent : registry.Coherent) {route known : Route F}
    (hsanctions : registry.Sanctions route) :
    known ∈ (registry.track route).instances ↔ known ∈ registry.instances ∨ known = route := by
  obtain ⟨template, htemplate, hout⟩ := hsanctions
  have hroute : route ∈ (registry.track route).instances := hcoherent.mem_track route htemplate hout
  by_cases hknows : registry.knows route = true
  · rw [Registry.track, if_pos hknows] at hroute ⊢
    constructor
    · exact .inl
    · rintro (hmem | rfl)
      · exact hmem
      · exact hroute
  · simp [Registry.track, hknows]

/-- The instances after several derived routes are those before and the routes themselves: a flow
that is known brings in no other route than the one that is there. -/
theorem Coherent.trackAll (hcoherent : registry.Coherent) {routes : List (Route F)}
    (hsanctions : ∀ route ∈ routes, registry.Sanctions route) :
    (registry.trackAll routes).Coherent ∧
      ∀ known, known ∈ (registry.trackAll routes).instances ↔
        known ∈ registry.instances ∨ known ∈ routes := by
  induction routes generalizing registry with
  | nil => exact ⟨hcoherent, fun known => by simp [Registry.trackAll]⟩
  | cons route rest ih =>
      obtain ⟨hroute, hrest⟩ := List.forall_mem_cons.mp hsanctions
      obtain ⟨template, htemplate, hout⟩ := hroute
      have htracked : (registry.track route).Coherent := hcoherent.track route htemplate hout
      have hkept : ∀ other ∈ rest, (registry.track route).Sanctions other := by
        intro other hmem
        have hother := hrest other hmem
        unfold Sanctions template? at hother ⊢
        rwa [templates_track]
      obtain ⟨hall, hmem⟩ := ih htracked hkept
      refine ⟨hall, fun known => ?_⟩
      calc known ∈ (registry.trackAll (route :: rest)).instances
          ↔ known ∈ (registry.track route).instances ∨ known ∈ rest := hmem known
        _ ↔ (known ∈ registry.instances ∨ known = route) ∨ known ∈ rest := by
            rw [hcoherent.mem_track_iff ⟨template, htemplate, hout⟩]
        _ ↔ known ∈ registry.instances ∨ known ∈ route :: rest := by
            rw [or_assoc, List.mem_cons]

theorem Coherent.nodup_instances (hcoherent : registry.Coherent) : registry.instances.Nodup :=
  hcoherent.instances_distinct.of_map

/-- The order in which routes are derived, and how often, shows in the order of the instances
alone. -/
theorem Coherent.perm_trackAll (hcoherent : registry.Coherent) {routes others : List (Route F)}
    (hsanctions : ∀ route ∈ routes, registry.Sanctions route)
    (hsame : ∀ route, route ∈ routes ↔ route ∈ others) :
    (registry.trackAll routes).instances.Perm (registry.trackAll others).instances := by
  obtain ⟨hone, hmem⟩ := hcoherent.trackAll hsanctions
  have hsanctions' : ∀ route ∈ others, registry.Sanctions route :=
    fun route hroute => hsanctions route ((hsame route).mpr hroute)
  obtain ⟨hother, hmem'⟩ := hcoherent.trackAll hsanctions'
  refine (List.perm_ext_iff_of_nodup hone.nodup_instances hother.nodup_instances).mpr ?_
  intro known
  rw [hmem, hmem', hsame]

end Registry

end Multicast
