import Mathlib.Data.List.Induction
import Multicast.Proofs.Channel.Lifecycle
import Multicast.Proofs.Registry.Coherence

/-!
# Accounting for the forwarding cache

Every entry of the cache is accounted for by a route that the registry tracks, or by the last step
of the session that wrote under its key, which then added just this route. Registry and kernel find
routes by different keys, and a tracked route may be installed again; the two meet because a tracked
route always goes where the first template for it goes, so what is installed again is the route that
is tracked.
-/

namespace Multicast.Channel

open Multicast.Action SimulatedKernel

variable {F : Family} {τ : Type}

/-! ### Histories -/

namespace Step

def bounds (step : Step F) : Bool :=
  match step.operation with
  | .enable _ => step.answer.isOk
  | .disable => true
  | _ => false

end Step

/-- The steps of the session that a history ends in, the latest first. -/
def session (history : List (Step F)) : List (Step F) :=
  history.reverse.takeWhile fun step => !step.bounds

/-- The key of the cache that an operation writes under. -/
def Operation.target? : Operation F → Option (F.Addr × F.Addr)
  | add route => if route.isWildcard then none else some route.cacheKey
  | resolve flow => some (flow.sender, flow.group)
  | _ => none

def Step.wrote (step : Step F) (key : F.Addr × F.Addr) : Bool :=
  step.answer.isOk && step.operation.target? = some key

/-- The last step of the session that wrote under a key. -/
def lastWrite? (history : List (Step F)) (key : F.Addr × F.Addr) : Option (Step F) :=
  (session history).find? fun step => step.wrote key

@[simp]
theorem session_append (history : List (Step F)) (step : Step F) :
    session (history ++ [step]) = if step.bounds then [] else step :: session history := by
  cases hbounds : step.bounds <;> simp [session, hbounds]

theorem lastWrite?_append {history : List (Step F)} {step : Step F}
    (hinside : step.bounds = false) (key : F.Addr × F.Addr) :
    lastWrite? (history ++ [step]) key =
      if step.wrote key then some step else lastWrite? history key := by
  cases hwrote : step.wrote key <;> simp [lastWrite?, hinside, hwrote]

/-- The last write under a key that is an addition went through during the session, and added a
route for a known sender. -/
theorem of_lastWrite?_add {history : List (Step F)} {route : Route F} {key : F.Addr × F.Addr}
    (hwrite : lastWrite? history key = some ⟨.add route, .ok ()⟩) :
    ⟨.add route, .ok ()⟩ ∈ session history ∧ route.isWildcard = false := by
  refine ⟨List.mem_of_find?_eq_some hwrite, ?_⟩
  have hwrote := List.find?_some hwrite
  by_contra hwild
  simp [Step.wrote, Operation.target?, hwild] at hwrote

/-! ### The invariant -/

structure Accounted (history : List (Step F)) (channel : Channel F (SimulatedKernel F) τ) :
    Prop where
  life : channel.Lifecycle
  coherent : channel.registry.Coherent
  distinct : (channel.kernel.cache.map Route.cacheKey).Nodup
  written : ∀ entry ∈ channel.kernel.cache, entry ∈ channel.registry.instances ∨
    lastWrite? history entry.cacheKey = some ⟨.add entry, .ok ()⟩

variable [Sysctl τ] {history : List (Step F)} {channel : Channel F (SimulatedKernel F) τ}

omit [Sysctl τ] in
theorem Accounted.of_empty (hlife : channel.Lifecycle) (hregistry : channel.registry = .empty)
    (hcache : channel.kernel.cache = []) : Accounted history channel where
  life := hlife
  coherent := hregistry ▸ Registry.coherent_empty
  distinct := by simp [hcache]
  written := by simp [hcache]

omit [Sysctl τ] in
theorem Accounted.of_not_wrote (haccounted : Accounted history channel) {step : Step F}
    (hinside : step.bounds = false) (hwrote : ∀ key, step.wrote key = false) :
    Accounted (history ++ [step]) channel :=
  { haccounted with
    written := by
      intro entry hmem
      rw [lastWrite?_append hinside, hwrote]
      exact haccounted.written entry hmem }

theorem Accounted.enable (haccounted : Accounted history channel) (table : InterfaceTable) :
    Accounted (history ++ [⟨.enable table, ((Operation.enable table).perform channel).answer⟩])
      (Channel.enable table channel).state := by
  have hlife := haccounted.life.enable table
  obtain ⟨-, ⟨err, herr⟩, hstate⟩ | ⟨-, -, hidle, -⟩ | ⟨-, claimed, -, hcache, -, -, hstate⟩ :=
    haccounted.life.enable_cases table
  · rw [hstate]
    refine haccounted.of_not_wrote ?_ fun key => by simp [Step.wrote, Operation.target?]
    simp [Step.bounds, Operation.perform, herr, Except.map, Except.toBool]
  · exact .of_empty hlife hidle.registry hidle.cache
  · refine .of_empty hlife ?_ ?_
    · rw [hstate, state_setUp]
    · rw [hstate]
      exact (frame_setUp table claimed).1.trans hcache

omit [Sysctl τ] in
/-- A route handed to the kernel is accounted for, if it is tracked or is what the step adds. -/
theorem Accounted.install (haccounted : Accounted history channel) {registry : Registry F}
    {route : Route F} {step : Step F} (hinside : step.bounds = false)
    (htarget : step.operation.target? = some route.cacheKey)
    (hanswer : step.answer.isOk = true ↔ channel.kernel.faults.addRoute = none)
    (hcoherent : registry.Coherent)
    (hkept : ∀ known ∈ channel.registry.instances, known ∈ registry.instances)
    (hroute : route ∈ registry.instances ∨ step.operation = .add route)
    (hlife : Lifecycle { channel with
      registry, kernel := (RouteCall.add route).apply channel.kernel }) :
    Accounted (history ++ [step]) { channel with
      registry, kernel := (RouteCall.add route).apply channel.kernel } := by
  by_cases hfault : channel.kernel.faults.addRoute = none
  · have hok : step.answer = .ok () := by
      cases hcase : step.answer with
      | ok => rfl
      | error err => simp [hcase, hfault, Except.toBool] at hanswer
    refine ⟨hlife, hcoherent, ?_, ?_⟩
    · rw [cache_apply_add, if_pos hfault]
      exact nodup_store haccounted.distinct route
    intro entry hmem
    rw [cache_apply_add, if_pos hfault, mem_store_iff haccounted.distinct] at hmem
    rw [lastWrite?_append hinside]
    -- the route itself is new; an entry under another key has the last write that it had
    obtain rfl | ⟨hold, hkey⟩ := hmem
    · refine hroute.imp_right fun hadd => ?_
      rw [if_pos (by simp [Step.wrote, hanswer.mpr hfault, htarget]), ← hadd, ← hok]
    · rw [if_neg (by simp [Step.wrote, htarget, Ne.symm hkey])]
      exact (haccounted.written entry hold).imp_left (hkept entry)
  · have hcache : ((RouteCall.add route).apply channel.kernel).cache = channel.kernel.cache := by
      rw [cache_apply_add, if_neg hfault]
    have hfailed : step.answer.isOk = false := by
      rwa [← Bool.not_eq_true, hanswer]
    refine ⟨hlife, hcoherent, hcache ▸ haccounted.distinct, ?_⟩
    intro entry hmem
    rw [lastWrite?_append hinside, if_neg (by simp [Step.wrote, hfailed])]
    exact (haccounted.written entry (hcache ▸ hmem)).imp_left (hkept entry)

omit [Sysctl τ] in
theorem Accounted.add (haccounted : Accounted history channel)
    (hholds : channel.holdsSocket = true) (route : Route F) :
    Accounted
      (history ++ [⟨.add route, (Registry.add route (channel.registry, channel.kernel)).answer⟩])
      (channel.routed (.add route)) := by
  have hlife := haccounted.life.routed hholds (.add route)
  by_cases hwild : route.isWildcard = true
  · have hkernel : (channel.routed (.add route)).kernel = channel.kernel := by
      simp [routed, Registry.Operation.calls, hwild]
    have hinstances : (channel.routed (.add route)).registry.instances =
        channel.registry.instances := by
      simp [routed, Registry.Operation.effect, Registry.addTemplate, hwild]
    have hkept : Accounted history (channel.routed (.add route)) :=
      ⟨hlife, haccounted.coherent.effect (.add route), hkernel ▸ haccounted.distinct,
        hkernel ▸ hinstances ▸ haccounted.written⟩
    exact hkept.of_not_wrote rfl fun key => by simp [Step.wrote, Operation.target?, hwild]
  · have hcalls : Registry.Operation.calls channel.registry (.add route) = [.add route] := by
      simp [Registry.Operation.calls, hwild]
    have heffect : Registry.Operation.effect channel.registry (.add route) = channel.registry := by
      simp [Registry.Operation.effect, hwild]
    have hanswer : (Registry.add route (channel.registry, channel.kernel)).answer =
        (route.install channel.kernel).answer := by
      simp [Registry.add, hwild]
    rw [routed, hcalls, heffect] at hlife ⊢
    refine haccounted.install rfl (by simp [Operation.target?, hwild]) ?_ haccounted.coherent
      (fun _ hmem => hmem) (.inr rfl) hlife
    rw [hanswer, isOk_install]

omit [Sysctl τ] in
theorem Accounted.resolve (haccounted : Accounted history channel)
    (hholds : channel.holdsSocket = true) (flow : Flow F) :
    Accounted
      (history ++
        [⟨.resolve flow, (Registry.resolve flow (channel.registry, channel.kernel)).answer⟩])
      (channel.routed (.resolve flow)) := by
  have hlife := haccounted.life.routed hholds (.resolve flow)
  cases htemplate : channel.registry.template? flow.group flow.inbound with
  | none =>
      have hsame : channel.routed (.resolve flow) = channel := by
        simp [routed, Registry.Operation.calls, Registry.Operation.effect, htemplate]
      rw [hsame]
      refine haccounted.of_not_wrote rfl fun key => ?_
      simp [Step.wrote, Registry.resolve, htemplate, Except.toBool]
  | some template =>
      have hcalls : Registry.Operation.calls channel.registry (.resolve flow) =
          [.add (flow.toRoute template.outbound)] := by
        simp [Registry.Operation.calls, htemplate]
      have heffect : Registry.Operation.effect channel.registry (.resolve flow) =
          channel.registry.track (flow.toRoute template.outbound) := by
        simp [Registry.Operation.effect, htemplate]
      have hanswer : (Registry.resolve flow (channel.registry, channel.kernel)).answer =
          ((flow.toRoute template.outbound).install channel.kernel).answer := by
        simp [Registry.resolve, htemplate]
      rw [routed, hcalls, heffect] at hlife ⊢
      refine haccounted.install rfl rfl ?_ (haccounted.coherent.track _ htemplate rfl)
        (fun known hmem => ?_) (.inl (haccounted.coherent.mem_track _ htemplate rfl)) hlife
      · rw [hanswer, isOk_install]
      · unfold Registry.track
        split
        · exact hmem
        · exact List.mem_append_left _ hmem

omit [Sysctl τ] in
/-- Removing a template takes out the entries with the key of an instance for its group and slot,
and the entry for any sender of the group. -/
theorem mem_cache_routed_remove (hcoherent : channel.registry.Coherent) {route entry : Route F}
    (hwild : route.isWildcard = true) :
    entry ∈ (channel.routed (.remove route)).kernel.cache ↔
      (entry ∈ channel.kernel.cache ∧
        ∀ known ∈ channel.registry.instancesFor route.group route.inbound,
          entry.cacheKey ≠ known.cacheKey) ∧
        entry.cacheKey ≠ route.cacheKey := by
  simp only [routed, hcoherent.calls_remove hwild, List.foldl_append, List.foldl_cons,
    List.foldl_nil, cache_apply_del, List.mem_filter, Bool.not_eq_true', sameEntry_eq_false_iff,
    mem_cache_deletions]

omit [Sysctl τ] in
theorem Accounted.remove (haccounted : Accounted history channel)
    (hholds : channel.holdsSocket = true) (route : Route F) :
    Accounted
      (history ++
        [⟨.remove route, (Registry.remove route (channel.registry, channel.kernel)).answer⟩])
      (channel.routed (.remove route)) := by
  have hkept : Accounted history (channel.routed (.remove route)) := by
    refine ⟨haccounted.life.routed hholds (.remove route),
      haccounted.coherent.effect (.remove route),
      nodup_foldl_apply haccounted.distinct _, ?_⟩
    intro entry hmem
    by_cases hwild : route.isWildcard = true
    · obtain ⟨⟨hold, hother⟩, -⟩ := (mem_cache_routed_remove haccounted.coherent hwild).mp hmem
      refine (haccounted.written entry hold).imp_left fun hinstance => ?_
      -- an instance for this group and slot would have been deleted under its own key
      have hnot : entry.isFor route.group route.inbound = false := by
        rw [← Bool.not_eq_true]
        exact fun hfor => hother entry (List.mem_filter.mpr ⟨hinstance, hfor⟩) rfl
      rw [routed, haccounted.coherent.instances_remove hwild]
      exact List.mem_filter.mpr ⟨hinstance, by simp [hnot]⟩
    · have hregistry : (channel.routed (.remove route)).registry = channel.registry := by
        simp [routed, Registry.Operation.effect, hwild]
      have hcache : (channel.routed (.remove route)).kernel.cache =
          channel.kernel.cache.filter fun other => !sameEntry route other := by
        simp [routed, Registry.Operation.calls, hwild, cache_apply_del]
      rw [hregistry]
      exact haccounted.written entry (List.mem_of_mem_filter (hcache ▸ hmem))
  exact hkept.of_not_wrote rfl fun key => by simp [Step.wrote, Operation.target?]

omit [Sysctl τ] in
theorem Accounted.whenEnabled (haccounted : Accounted history channel) {operation : Operation F}
    (hinside : ∀ answer, (Step.mk operation answer).bounds = false) (change : Registry.Operation F)
    (hopen : channel.holdsSocket = true →
      Accounted
        (history ++ [⟨operation, (change.perform (channel.registry, channel.kernel)).answer⟩])
        (channel.routed change)) :
    Accounted (history ++ [⟨operation, (Channel.whenEnabled change.perform channel).answer⟩])
      (Channel.whenEnabled change.perform channel).state := by
  rw [answer_whenEnabled, state_whenEnabled]
  by_cases hholds : channel.holdsSocket = true
  · rw [if_pos hholds, if_pos hholds]
    exact hopen hholds
  · rw [if_neg hholds, if_neg hholds]
    exact haccounted.of_not_wrote (hinside _) fun key => by simp [Step.wrote, Except.toBool]

theorem Accounted.step (haccounted : Accounted history channel) (operation : Operation F) :
    Accounted (history ++ [⟨operation, (operation.perform channel).answer⟩])
      (operation.perform channel).state := by
  cases operation with
  | enable table => exact haccounted.enable table
  | disable =>
      obtain ⟨hlife, hidle, -⟩ := haccounted.life.disable
      exact .of_empty hlife hidle.registry hidle.cache
  | add route =>
      exact haccounted.whenEnabled (fun _ => rfl) (.add route) fun hholds =>
        haccounted.add hholds route
  | remove route =>
      exact haccounted.whenEnabled (fun _ => rfl) (.remove route) fun hholds =>
        haccounted.remove hholds route
  | resolve flow =>
      exact haccounted.whenEnabled (fun _ => rfl) (.resolve flow) fun hholds =>
        haccounted.resolve hholds flow
  | inject faults =>
      have hkept : Accounted history (channel.inject faults) :=
        { haccounted with life := haccounted.life.inject faults }
      exact hkept.of_not_wrote rfl fun key => by simp [Step.wrote, Operation.target?]

theorem accounted_run (operations : List (Operation F)) (faults : KernelFaults) (sysctl : τ)
    (forwardingSwitch : Option String) :
    Accounted (run operations (fresh faults sysctl forwardingSwitch)).answer
      (run operations (fresh faults sysctl forwardingSwitch)).state := by
  induction operations using List.reverseRecOn with
  | nil => exact .of_empty (lifecycle_fresh faults sysctl forwardingSwitch) rfl rfl
  | append_singleton before operation ih =>
      obtain ⟨hanswer, hstate⟩ :=
        run_append_singleton before operation (fresh faults sysctl forwardingSwitch)
      rw [hanswer, hstate]
      exact ih.step operation

theorem Reachable.accounted (hreachable : channel.Reachable) :
    ∃ history, Accounted history channel := by
  obtain ⟨faults, sysctl, forwardingSwitch, operations, rfl⟩ := hreachable
  exact ⟨_, accounted_run operations faults sysctl forwardingSwitch⟩

/-- **No entry of the cache is left behind:** there is one for each origin and group, an instance or
a route for a known sender that was added in this session. Only such routes outlast the removal of a
template for their group and slot. -/
theorem cache_accounted (operations : List (Operation F)) (faults : KernelFaults) (sysctl : τ)
    (forwardingSwitch : Option String) :
    let reached := run operations (fresh faults sysctl forwardingSwitch)
    (reached.state.kernel.cache.map fun entry => (entry.origin, entry.group)).Nodup ∧
      (∀ entry ∈ reached.state.kernel.cache, entry ∈ reached.state.registry.instances ∨
        entry.isWildcard = false ∧ ⟨.add entry, .ok ()⟩ ∈ session reached.answer) ∧
      ∀ template : Route F, template.isWildcard = true →
        ∀ entry ∈ (remove template reached.state).state.kernel.cache,
          entry.group = template.group → entry.inbound = template.inbound →
            entry.isWildcard = false ∧
              lastWrite? reached.answer (entry.origin, entry.group) =
                some ⟨.add entry, .ok ()⟩ := by
  intro reached
  have haccounted : Accounted reached.answer reached.state :=
    accounted_run operations faults sysctl forwardingSwitch
  refine ⟨haccounted.distinct, ?_, ?_⟩
  · intro entry hmem
    refine (haccounted.written entry hmem).imp_right fun hwrite => ?_
    exact (of_lastWrite?_add hwrite).symm
  · intro template hwild entry hmem hgroup hinbound
    suffices hwrite : lastWrite? reached.answer entry.cacheKey = some ⟨.add entry, .ok ()⟩ from
      ⟨(of_lastWrite?_add hwrite).2, hwrite⟩
    rw [state_remove] at hmem
    by_cases hholds : reached.state.holdsSocket = true
    · rw [if_pos hholds, mem_cache_routed_remove haccounted.coherent hwild] at hmem
      obtain ⟨⟨hold, hother⟩, -⟩ := hmem
      refine (haccounted.written entry hold).resolve_left fun hinstance => ?_
      refine hother entry (List.mem_filter.mpr ⟨hinstance, ?_⟩) rfl
      exact Route.isFor_iff.mpr ⟨hgroup, hinbound⟩
    · rw [if_neg hholds, (haccounted.life.idle (by simpa using hholds)).cache] at hmem
      simp at hmem

end Multicast.Channel
