import Multicast.Interface.Samples
import Multicast.Proofs.Channel.Accounting
import Multicast.Proofs.Registry.Cascade
import Multicast.Proofs.Registry.Resolution

/-!
# The order in which flows arrive

The kernel reports a flow as often as it likes and in any order. Instances are kept once for each
flow, so they come out the same. The cache is kept by origin and group alone: there the last of two
flows counts that have these in common and arrive on different slots, and only then does the order
show.
-/

namespace Multicast.Channel

open Multicast.Action SimulatedKernel

variable {F : Family} {τ : Type} {channel : Channel F (SimulatedKernel F) τ}

def derivedRoutes (channel : Channel F (SimulatedKernel F) τ) (flows : List (Flow F)) :
    List (Route F) :=
  flows.filterMap channel.registry.derived?

theorem cacheKey_of_derived? {registry : Registry F} {flow : Flow F} {route : Route F}
    (hderived : registry.derived? flow = some route) :
    route.cacheKey = (flow.sender, flow.group) := by
  obtain ⟨template, -, rfl⟩ := Option.map_eq_some_iff.mp hderived
  rfl

theorem matched_of_derived? {registry : Registry F} {flow : Flow F} {route : Route F}
    (hderived : registry.derived? flow = some route) :
    (registry.template? flow.group flow.inbound).isSome = true := by
  rw [← Registry.isSome_derived?, hderived, Option.isSome_some]

theorem state_resolve (hholds : channel.holdsSocket = true) (flow : Flow F) :
    (resolve flow channel).state =
      { channel with
        registry := channel.registry.trackAll (channel.registry.derived? flow).toList
        kernel := ((channel.registry.derived? flow).toList.map RouteCall.add).foldl
          RouteCall.apply channel.kernel } := by
  have hstate := state_whenEnabled (.resolve flow) channel
  rw [if_pos hholds] at hstate
  rw [← Registry.effect_resolve, ← Registry.calls_resolve]
  exact hstate

theorem answer_resolve (hholds : channel.holdsSocket = true)
    (hfault : channel.kernel.faults.addRoute = none) (flow : Flow F) :
    (resolve flow channel).answer =
      if (channel.registry.derived? flow).isSome then .ok ()
      else .error (.noMatchingTemplate (Family.addrText flow.group) flow.inbound) := by
  have hanswer := answer_whenEnabled (.resolve flow) channel
  rw [if_pos hholds] at hanswer
  rw [Registry.isSome_derived?]
  refine hanswer.trans ?_
  cases htemplate : channel.registry.template? flow.group flow.inbound with
  | none => simp [Registry.Operation.perform, Registry.resolve, htemplate]
  | some template =>
      have hadded := (isOk_install (flow.toRoute template.outbound) channel.kernel).mpr hfault
      obtain ⟨value, hok⟩ := isOk_iff.mp hadded
      simp [Registry.Operation.perform, Registry.resolve, htemplate, hok]

/-- Flows do not change what is derived for the flows after them. -/
theorem each_resolve (hholds : channel.holdsSocket = true)
    (hfault : channel.kernel.faults.addRoute = none) (flows : List (Flow F)) :
    (Action.each resolve flows channel).answer =
        flows.map (fun flow => (resolve flow channel).answer) ∧
      (Action.each resolve flows channel).state =
        { channel with
          registry := channel.registry.trackAll (channel.derivedRoutes flows)
          kernel := ((channel.derivedRoutes flows).map RouteCall.add).foldl
            RouteCall.apply channel.kernel } := by
  induction flows generalizing channel with
  | nil => exact ⟨rfl, rfl⟩
  | cons flow rest ih =>
      have hafter := state_resolve hholds flow
      set after := (resolve flow channel).state
      have hholds' : after.holdsSocket = true := by rw [hafter, hholds]
      have hfault' : after.kernel.faults.addRoute = none := by
        rw [hafter, (frame_foldl_apply _ channel.kernel).2.2, hfault]
      have hsame : after.registry.derived? = channel.registry.derived? := by
        funext other
        refine Registry.derived?_congr ?_ other
        rw [hafter, Registry.templates_trackAll]
      obtain ⟨hanswers, hstate⟩ := ih hholds' hfault'
      constructor
      · rw [answer_each_cons, List.map_cons, hanswers]
        refine congrArg _ (List.map_congr_left fun other _ => ?_)
        rw [answer_resolve hholds' hfault', answer_resolve hholds hfault, hsame]
      · have hroutes : channel.derivedRoutes (flow :: rest) =
            (channel.registry.derived? flow).toList ++ after.derivedRoutes rest := by
          rw [derivedRoutes, derivedRoutes, hsame, List.filterMap_cons]
          cases channel.registry.derived? flow <;> rfl
        rw [state_each_cons, hstate, hroutes, Registry.trackAll_append, List.map_append,
          List.foldl_append, hafter]

variable [Sysctl τ]

/-- **It does not matter in which order and how often flows arrive:** they are answered alike and
leave the same instances, and the same cache unless two flows share sender and group but not the
slot. -/
theorem resolve_in_any_order (hreachable : channel.Reachable) (henabled : channel.phase = .enabled)
    (hfault : channel.kernel.faults.addRoute = none) {flows others : List (Flow F)}
    (hsame : ∀ flow, flow ∈ flows ↔ flow ∈ others) :
    let one := Action.each resolve flows channel
    let other := Action.each resolve others channel
    let answer (flow : Flow F) := (resolve flow channel).answer
    let matched (flow : Flow F) :=
      (channel.registry.template? flow.group flow.inbound).isSome = true
    one.answer = flows.map answer ∧ other.answer = others.map answer ∧
      one.state.registry.instances.Perm other.state.registry.instances ∧
      ((∀ flow ∈ flows, ∀ twin ∈ flows, matched flow → matched twin →
          flow.sender = twin.sender → flow.group = twin.group → flow.inbound = twin.inbound) →
        ∀ origin group, cached? origin group one.state.kernel.cache =
          cached? origin group other.state.kernel.cache) := by
  intro one other answer matched
  have hholds : channel.holdsSocket = true :=
    hreachable.lifecycle.phase_eq_enabled_iff.mp henabled
  obtain ⟨history, haccounted⟩ := hreachable.accounted
  obtain ⟨hanswers, hstate⟩ := each_resolve hholds hfault flows
  obtain ⟨hanswers', hstate'⟩ := each_resolve hholds hfault others
  have hroutes : ∀ route,
      route ∈ channel.derivedRoutes flows ↔ route ∈ channel.derivedRoutes others := by
    intro route
    simp only [derivedRoutes, List.mem_filterMap, hsame]
  have hsanctions : ∀ route ∈ channel.derivedRoutes flows, channel.registry.Sanctions route := by
    intro route hmem
    obtain ⟨flow, -, hderived⟩ := List.mem_filterMap.mp hmem
    exact Registry.sanctions_of_derived? hderived
  refine ⟨hanswers, hanswers', ?_, ?_⟩
  · rw [hstate, hstate']
    exact haccounted.coherent.perm_trackAll hsanctions hroutes
  · intro hslots origin group
    have hkeys : ∀ route ∈ channel.derivedRoutes flows, ∀ twin ∈ channel.derivedRoutes flows,
        route.cacheKey = twin.cacheKey → route = twin := by
      intro route hroute twin htwin hkey
      obtain ⟨flow, hflow, hderived⟩ := List.mem_filterMap.mp hroute
      obtain ⟨flow', hflow', hderived'⟩ := List.mem_filterMap.mp htwin
      have hsome : matched flow := matched_of_derived? hderived
      have hsome' : matched flow' := matched_of_derived? hderived'
      rw [cacheKey_of_derived? hderived, cacheKey_of_derived? hderived', Prod.mk.injEq] at hkey
      have hslot := hslots flow hflow flow' hflow' hsome hsome' hkey.1 hkey.2
      obtain rfl : flow = flow' := by
        cases flow
        cases flow'
        simp_all
      exact Option.some.inj (hderived.symm.trans hderived')
    rw [hstate, hstate']
    refine cached?_congr (nodup_foldl_apply haccounted.distinct _)
      (nodup_foldl_apply haccounted.distinct _) (fun entry => ?_) origin group
    rw [mem_cache_additions hfault haccounted.distinct hkeys,
      mem_cache_additions hfault haccounted.distinct ?_, hroutes]
    · simp only [hroutes]
    · simpa only [hroutes] using hkeys

/-! ### Two hosts and two slots -/

open Registry (across sentBy)

/-- Templates for two slots, and one host that has been heard by the first of them. -/
def oneHeard : Channel .ipv4 (SimulatedKernel .ipv4) RecordingSysctl :=
  (run [.enable .basic, .add (across 0 1), .add (across 1 0), .resolve (sentBy 5 0)]
    (fresh {} {} none)).state

/-- The host that is known comes again, one is reported twice, and for one there is no template. -/
theorem oneHeard_any_order :
    let flows := [sentBy 6 0, sentBy 5 0, sentBy 7 1, sentBy 8 2]
    let others := [sentBy 8 2, sentBy 7 1, sentBy 5 0, sentBy 7 1, sentBy 6 0]
    let one := Action.each resolve flows oneHeard
    let other := Action.each resolve others oneHeard
    oneHeard.phase = .enabled ∧ oneHeard.kernel.faults.addRoute = none ∧
      (∀ flow, flow ∈ flows ↔ flow ∈ others) ∧
      one.answer.map Except.isOk = [true, true, true, false] ∧
      one.state.registry.instances ≠ other.state.registry.instances ∧
      one.state.registry.instances.Perm other.state.registry.instances ∧
      one.state.kernel.cache ≠ other.state.kernel.cache ∧
      ∀ origin group, cached? origin group one.state.kernel.cache =
        cached? origin group other.state.kernel.cache := by
  intro flows others one other
  have hreachable : oneHeard.Reachable := ⟨{}, {}, none, _, rfl⟩
  have henabled : oneHeard.phase = .enabled := by decide +kernel
  have hfault : oneHeard.kernel.faults.addRoute = none := by decide +kernel
  have hsame : ∀ flow, flow ∈ flows ↔ flow ∈ others := by
    intro flow
    simp only [flows, others, List.mem_cons, List.not_mem_nil, or_false]
    tauto
  obtain ⟨-, -, hinstances, hcaches⟩ := resolve_in_any_order hreachable henabled hfault hsame
  have hslots : ∀ flow ∈ flows, ∀ twin ∈ flows,
      flow.sender = twin.sender → flow.group = twin.group → flow.inbound = twin.inbound := by
    decide +kernel
  exact ⟨henabled, hfault, hsame, by decide +kernel, by decide +kernel, hinstances,
    by decide +kernel,
    hcaches fun flow hflow twin htwin _ _ => hslots flow hflow twin htwin⟩

/-- A host that is heard by both slots is forwarded as it was heard last. -/
example :
    let heard (inbound : SlotIndex) : Flow .ipv4 := ⟨⟨10, 0, 0, 9⟩, ⟨239, 1, 1, 1⟩, inbound⟩
    let template (inbound outbound : SlotIndex) : Operation .ipv4 :=
      .add (.wildcard ⟨239, 1, 1, 1⟩ inbound (Family.Outbound.set .empty outbound 1))
    let channel : Channel .ipv4 (SimulatedKernel .ipv4) RecordingSysctl :=
      (run [.enable .basic, template 0 1, template 1 0] (fresh {} {} none)).state
    let slots (flows : List (Flow .ipv4)) :=
      (Action.each resolve flows channel).state.kernel.cache.map Route.inbound
    slots [heard 0, heard 1] = [1] ∧ slots [heard 1, heard 0] = [0] := by
  decide +kernel

end Multicast.Channel
