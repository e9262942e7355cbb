import Multicast.Proofs.Channel.Transcript
import Multicast.Proofs.Manager.Standing

/-!
# Applying the configured routes

An enabled channel takes the routes that can be built for its family, in the order of the
configuration. What becomes of an entry depends on where its channel is and on how the kernel fails,
and no entry changes either, so an entry that fails is as good as not there.
-/

namespace Multicast

open Multicast.Action SimulatedKernel

variable {F : Family} {τ : Type}

namespace Summary

theorem foldl_count (results : List Applied) (summary : Summary) :
    results.foldl count summary =
      { applied := summary.applied + results.count .applied
        failed := summary.failed + results.count .failed
        skipped := summary.skipped + results.count .skipped } := by
  induction results generalizing summary with
  | nil => rfl
  | cons result rest ih =>
      rw [List.foldl_cons, ih]
      cases result <;> simp [count, Nat.add_comm, Nat.add_left_comm]

theorem ofList_eq (results : List Applied) :
    ofList results =
      { applied := results.count .applied
        failed := results.count .failed
        skipped := results.count .skipped } := by
  rw [ofList, foldl_count]
  simp

theorem total_ofList (results : List Applied) :
    (ofList results).applied + (ofList results).failed + (ofList results).skipped =
      results.length := by
  rw [ofList_eq]
  induction results with
  | nil => rfl
  | cons result rest ih => cases result <;> simp at ih ⊢ <;> omega

end Summary

namespace Channel

/-! ### Taking routes -/

section Taking

variable (routes others : List (Route F)) (channel : Channel F (SimulatedKernel F) τ)

/-- The channel with the routes added: those for any sender to its templates, all others to its
kernel. -/
def taking : Channel F (SimulatedKernel F) τ :=
  { channel with
    registry :=
      { channel.registry with
        templates := channel.registry.templates ++ routes.filter Route.isWildcard }
    kernel := ((routes.filter fun route => !route.isWildcard).map RouteCall.add).foldl
      RouteCall.apply channel.kernel }

theorem taking_nil : channel.taking [] = channel := by
  simp [taking]

theorem taking_append :
    channel.taking (routes ++ others) = (channel.taking routes).taking others := by
  simp [taking]

theorem routed_add (route : Route F) : channel.routed (.add route) = channel.taking [route] := by
  cases hwild : route.isWildcard <;>
    simp [routed, taking, Registry.Operation.effect, Registry.Operation.calls, Registry.addTemplate,
      hwild]

theorem faults_taking : (channel.taking routes).kernel.faults = channel.kernel.faults :=
  (frame_foldl_apply _ channel.kernel).2.2

theorem calls_taking :
    (channel.taking routes).kernel.calls = channel.kernel.calls ++
      (routes.filter fun route => !route.isWildcard).map KernelCall.addRoute := by
  rw [taking, calls_foldl_apply, List.map_map]
  rfl

end Taking

/-- An enabled channel before and after routes are applied: those for any sender follow its
templates, and its kernel is told all others, in their order. -/
structure Took (routes : List (Route F)) (before after : Channel F (SimulatedKernel F) τ) :
    Prop where
  templates : after.registry.templates =
    before.registry.templates ++ routes.filter Route.isWildcard
  calls : after.kernel.calls =
    before.kernel.calls ++ (routes.filter fun route => !route.isWildcard).map KernelCall.addRoute
  instances : after.registry.instances = before.registry.instances
  slots : after.slots = before.slots

theorem took_taking (routes : List (Route F)) (channel : Channel F (SimulatedKernel F) τ) :
    Took routes channel (channel.taking routes) where
  templates := rfl
  calls := calls_taking routes channel
  instances := rfl
  slots := rfl

theorem sameStanding_taking {channel : Channel F (SimulatedKernel F) τ}
    (hfault : channel.kernel.faults.addRoute ≠ none) {routes others : List (Route F)}
    (htemplates : routes.filter Route.isWildcard = others.filter Route.isWildcard) :
    SameStanding (channel.taking routes) (channel.taking others) where
  phase := rfl
  holdsSocket := rfl
  slots := rfl
  registry := by rw [taking, taking, htemplates]
  cache := (cache_additions_of_fault hfault).trans (cache_additions_of_fault hfault).symm
  registered := (frame_foldl_apply _ _).1.trans (frame_foldl_apply _ _).1.symm

end Channel

def RouteEntry.built (F : Family) (interfaces : InterfaceTable) (defaultTtl : UInt8)
    (entries : List RouteEntry) : List (Route F) :=
  entries.filterMap fun entry => (entry.toRoute F interfaces defaultTtl).toOption

namespace Channel

open RouteEntry (built)

/-! ### Entries on a channel -/

variable (interfaces : InterfaceTable) (defaultTtl : UInt8) (entry : RouteEntry)
  (entries others : List RouteEntry) (channel : Channel F (SimulatedKernel F) τ)

/-- No route can be built from the entry, or its route is for the kernel and the kernel refuses
it. -/
def declines : Bool :=
  match entry.toRoute F interfaces defaultTtl with
  | .error _ => true
  | .ok route => !route.isWildcard && channel.kernel.faults.addRoute.isSome

def fate : Applied :=
  if channel.isEnabled then
    if channel.declines interfaces defaultTtl entry then .failed else .applied
  else .skipped

def takingEntries : Channel F (SimulatedKernel F) τ :=
  if channel.isEnabled then channel.taking (built F interfaces defaultTtl entries) else channel

theorem fate_eq_skipped_iff :
    channel.fate interfaces defaultTtl entry = .skipped ↔ channel.isEnabled = false := by
  cases henabled : channel.isEnabled <;>
    cases hdeclines : channel.declines interfaces defaultTtl entry <;>
      simp [fate, henabled, hdeclines]

theorem fate_eq_failed_iff :
    channel.fate interfaces defaultTtl entry = .failed ↔
      channel.isEnabled = true ∧ channel.declines interfaces defaultTtl entry = true := by
  cases henabled : channel.isEnabled <;>
    cases hdeclines : channel.declines interfaces defaultTtl entry <;>
      simp [fate, henabled, hdeclines]

theorem takingEntries_nil : channel.takingEntries interfaces defaultTtl [] = channel := by
  cases henabled : channel.isEnabled <;> simp [takingEntries, built, taking_nil, henabled]

theorem takingEntries_append :
    channel.takingEntries interfaces defaultTtl (entries ++ others) =
      (channel.takingEntries interfaces defaultTtl entries).takingEntries interfaces defaultTtl
        others := by
  cases henabled : channel.isEnabled with
  | false => simp [takingEntries, henabled]
  | true =>
      have hafter : (channel.taking (built F interfaces defaultTtl entries)).isEnabled = true :=
        henabled
      have hbuilt : built F interfaces defaultTtl (entries ++ others) =
          built F interfaces defaultTtl entries ++ built F interfaces defaultTtl others :=
        List.filterMap_append
      simp only [takingEntries, henabled, hafter, if_true, hbuilt, taking_append]

/-- The channels have come equally far, over kernels that fail alike. -/
structure Abreast (one other : Channel F (SimulatedKernel F) τ) : Prop where
  phase : one.phase = other.phase
  holdsSocket : one.holdsSocket = other.holdsSocket
  faults : one.kernel.faults = other.kernel.faults

theorem Abreast.refl : Abreast channel channel := ⟨rfl, rfl, rfl⟩

theorem abreast_takingEntries :
    Abreast (channel.takingEntries interfaces defaultTtl entries) channel := by
  unfold takingEntries
  split
  · exact ⟨rfl, rfl, faults_taking _ channel⟩
  · exact .refl channel

theorem Abreast.fate_eq {one other : Channel F (SimulatedKernel F) τ}
    (habreast : Abreast one other) :
    one.fate interfaces defaultTtl entry = other.fate interfaces defaultTtl entry := by
  rw [fate, fate, isEnabled, isEnabled, declines, declines, habreast.phase, habreast.faults]

variable {interfaces} {defaultTtl} {entry} {channel}

/-- An enabled channel that takes nothing of an entry stands where it stands without the entry. -/
theorem sameStanding_of_declines (hdeclines : channel.declines interfaces defaultTtl entry = true)
    (front rest : List RouteEntry) :
    SameStanding (channel.takingEntries interfaces defaultTtl (front ++ entry :: rest))
      (channel.takingEntries interfaces defaultTtl (front ++ rest)) := by
  unfold takingEntries
  split
  case isFalse => exact .refl channel
  case isTrue =>
    cases hroute : entry.toRoute F interfaces defaultTtl with
    | error err =>
        have hbuilt : built F interfaces defaultTtl (front ++ entry :: rest) =
            built F interfaces defaultTtl (front ++ rest) := by
          simp [built, hroute, Except.toOption]
        rw [hbuilt]
        exact .refl _
    | ok route =>
        obtain ⟨hconcrete, hfault⟩ : route.isWildcard = false ∧
            channel.kernel.faults.addRoute ≠ none := by
          simpa [declines, hroute, Option.isSome_iff_ne_none] using hdeclines
        -- the kernel that refuses this route refuses all, so its cache stays with it and without it
        refine sameStanding_taking hfault ?_
        simp [built, hroute, hconcrete, Except.toOption]

theorem isOk_add (hholds : channel.holdsSocket = true) (route : Route F) :
    (add route channel).answer.isOk = true ↔
      route.isWildcard = true ∨ channel.kernel.faults.addRoute = none := by
  have hanswer : (add route channel).answer =
      (Registry.add route (channel.registry, channel.kernel)).answer :=
    (answer_whenEnabled (.add route) channel).trans (if_pos hholds)
  rw [hanswer]
  by_cases hwild : route.isWildcard = true
  · simp [Registry.add, hwild, Except.toBool]
  · simp [Registry.add, hwild, isOk_install]

def Attached (channel : Channel F (SimulatedKernel F) τ) : Prop :=
  channel.phase = .enabled → channel.holdsSocket = true

theorem Attached.of_abreast {other : Channel F (SimulatedKernel F) τ}
    (hattached : channel.Attached) (habreast : Abreast other channel) : other.Attached := by
  intro henabled
  rw [habreast.holdsSocket]
  exact hattached (habreast.phase.symm.trans henabled)

end Channel

namespace Manager

open Channel

section Entries

variable (interfaces : InterfaceTable) (defaultTtl : UInt8)

theorem applyEntry_eq {channel : Channel F (SimulatedKernel F) τ} (hattached : channel.Attached)
    (entry : RouteEntry) :
    (applyEntry interfaces defaultTtl entry channel).answer =
        channel.fate interfaces defaultTtl entry ∧
      (applyEntry interfaces defaultTtl entry channel).state =
        channel.takingEntries interfaces defaultTtl [entry] := by
  cases his : channel.isEnabled with
  | false => simp [applyEntry, fate, takingEntries, his]
  | true =>
      have hholds : channel.holdsSocket = true := hattached (by simpa [isEnabled] using his)
      cases hroute : entry.toRoute F interfaces defaultTtl with
      | error err =>
          simp [applyEntry, fate, declines, takingEntries, RouteEntry.built, his, hroute,
            Except.toOption, taking_nil]
      | ok route =>
          have hstate : (add route channel).state =
              channel.takingEntries interfaces defaultTtl [entry] := by
            simp [state_add, hholds, routed_add, takingEntries, RouteEntry.built, his, hroute,
              Except.toOption]
          have hok := isOk_add hholds route
          cases hadd : (add route channel).answer with
          | ok =>
              have htaken : channel.declines interfaces defaultTtl entry = false := by
                rw [hadd] at hok
                simpa [declines, hroute, Except.toBool, or_iff_not_imp_left] using hok
              simp [applyEntry, fate, his, hroute, hadd, hstate, htaken]
          | error err =>
              have hdeclined : channel.declines interfaces defaultTtl entry = true := by
                rw [hadd] at hok
                simpa [declines, hroute, Except.toBool, Option.isSome_iff_ne_none] using hok
              simp [applyEntry, fate, his, hroute, hadd, hstate, hdeclined]

theorem state_each_applyEntry {channel : Channel F (SimulatedKernel F) τ}
    (hattached : channel.Attached) (entries : List RouteEntry) :
    (Action.each (applyEntry interfaces defaultTtl) entries channel).state =
      channel.takingEntries interfaces defaultTtl entries := by
  induction entries generalizing channel with
  | nil => exact (takingEntries_nil interfaces defaultTtl channel).symm
  | cons entry rest ih =>
      have hattached' := hattached.of_abreast
        (abreast_takingEntries interfaces defaultTtl [entry] channel)
      rw [state_each_cons, (applyEntry_eq interfaces defaultTtl hattached entry).2, ih hattached',
        ← takingEntries_append, List.singleton_append]

theorem abreast_applyOne {manager : Simulated τ} (hattached : ∀ F, (manager.channel F).Attached)
    (entry : RouteEntry) (F : Family) :
    Abreast ((applyOne interfaces defaultTtl entry manager).state.channel F)
      (manager.channel F) := by
  by_cases hfamily : F = entry.family
  · subst hfamily
    rw [applyOne_of_family rfl, channel_onFamily,
      (applyEntry_eq _ _ (hattached entry.family) entry).2]
    exact abreast_takingEntries ..
  · rw [applyOne_of_family rfl, channel_onFamily_of_ne _ _ hfamily]
    exact .refl _

/-- An entry fares after others as it would fare before them. -/
theorem answer_each_applyOne {manager : Simulated τ}
    (hattached : ∀ F, (manager.channel F).Attached) (entries : List RouteEntry) :
    (Action.each (applyOne interfaces defaultTtl) entries manager).answer =
      entries.map fun entry =>
        (manager.channel entry.family).fate interfaces defaultTtl entry := by
  induction entries generalizing manager with
  | nil => rfl
  | cons entry rest ih =>
      have habreast := abreast_applyOne interfaces defaultTtl hattached entry
      have hanswer : (applyOne interfaces defaultTtl entry manager).answer =
          (manager.channel entry.family).fate interfaces defaultTtl entry := by
        rw [applyOne_of_family rfl, answer_onFamily,
          (applyEntry_eq _ _ (hattached entry.family) entry).1]
      -- the first entry leaves every channel abreast of itself, and the rest fare as before it
      rw [answer_each_cons, hanswer, List.map_cons,
        ih fun F => (hattached F).of_abreast (habreast F)]
      refine congrArg _ (List.map_congr_left fun other _ => ?_)
      exact (habreast other.family).fate_eq interfaces defaultTtl other

end Entries

/-! ### The configured routes -/

def routesFor (F : Family) (manager : Simulated τ) : List (Route F) :=
  RouteEntry.built F manager.interfaces manager.config.daemon.defaultTtl
    (manager.config.routes.filter fun entry => entry.family = F)

def skips (manager : Simulated τ) (entry : RouteEntry) : Bool :=
  !(manager.channel entry.family).isEnabled

def fails (manager : Simulated τ) (entry : RouteEntry) : Bool :=
  (manager.channel entry.family).isEnabled &&
    (manager.channel entry.family).declines manager.interfaces
      manager.config.daemon.defaultTtl entry

def fates (manager : Simulated τ) : List Applied :=
  manager.config.routes.map fun entry =>
    (manager.channel entry.family).fate manager.interfaces manager.config.daemon.defaultTtl entry

def withRoutes (routes : List RouteEntry) (manager : Simulated τ) : Simulated τ :=
  { manager with config := { manager.config with routes } }

@[simp]
theorem channel_withRoutes (routes : List RouteEntry) (manager : Simulated τ) (F : Family) :
    (manager.withRoutes routes).channel F = manager.channel F := by
  cases F <;> rfl

theorem fates_withRoutes (routes : List RouteEntry) (manager : Simulated τ) :
    (manager.withRoutes routes).fates = routes.map fun entry =>
      (manager.channel entry.family).fate manager.interfaces manager.config.daemon.defaultTtl
        entry := by
  simp only [fates, channel_withRoutes]
  rfl

variable {manager : Simulated τ}

theorem count_fates (result : Applied) {counted : RouteEntry → Bool}
    (hcounted : ∀ entry,
      (manager.channel entry.family).fate manager.interfaces manager.config.daemon.defaultTtl
        entry = result ↔ counted entry = true) :
    manager.fates.count result = manager.config.routes.countP counted := by
  rw [fates, List.count, List.countP_map]
  exact List.countP_congr fun entry _ => by simpa using hcounted entry

section Attached

variable (hattached : ∀ F, (manager.channel F).Attached)

include hattached

theorem answer_applyRoutes : (applyRoutes manager).answer = Summary.ofList manager.fates := by
  rw [(applyRoutes_apply manager).1, answer_each_applyOne _ _ hattached, fates]

theorem channel_applyRoutes_eq (F : Family) :
    (applyRoutes manager).state.channel F =
      (manager.channel F).takingEntries manager.interfaces manager.config.daemon.defaultTtl
        (manager.config.routes.filter fun entry => entry.family = F) := by
  rw [channel_applyRoutes, state_each_applyEntry _ _ (hattached F)]

theorem counts_applyRoutes :
    let summary := (applyRoutes manager).answer
    summary.applied + summary.failed + summary.skipped = manager.config.routes.length ∧
      summary.skipped = manager.config.routes.countP manager.skips ∧
      summary.failed = manager.config.routes.countP manager.fails := by
  intro summary
  have hsummary : summary = Summary.ofList manager.fates := answer_applyRoutes hattached
  have hskipped : summary.skipped = manager.fates.count .skipped := by
    rw [hsummary, Summary.ofList_eq]
  have hfailed : summary.failed = manager.fates.count .failed := by
    rw [hsummary, Summary.ofList_eq]
  refine ⟨?_, ?_, ?_⟩
  · rw [hsummary, Summary.total_ofList, fates, List.length_map]
  · rw [hskipped]
    exact count_fates .skipped fun entry => by rw [fate_eq_skipped_iff, skips, Bool.not_eq_true']
  · rw [hfailed]
    exact count_fates .failed fun entry => by rw [fate_eq_failed_iff, fails, Bool.and_eq_true]

/-- Without an entry that fails there is one failure less, and all else is the same. -/
theorem applyRoutes_without {entry : RouteEntry} (hfails : manager.fails entry = true)
    (front rest : List RouteEntry) :
    let whole := applyRoutes (manager.withRoutes (front ++ entry :: rest))
    let without := applyRoutes (manager.withRoutes (front ++ rest))
    whole.answer = { without.answer with failed := without.answer.failed + 1 } ∧
      ∀ F, Channel.SameStanding (whole.state.channel F) (without.state.channel F) := by
  intro whole without
  have hattached' : ∀ routes F, ((manager.withRoutes routes).channel F).Attached := by
    intro routes F
    rw [channel_withRoutes]
    exact hattached F
  rw [fails, Bool.and_eq_true] at hfails
  constructor
  · have hfailed := (fate_eq_failed_iff _ _ _ _).mpr hfails
    rw [answer_applyRoutes (hattached' _), answer_applyRoutes (hattached' _), Summary.ofList_eq,
      Summary.ofList_eq, fates_withRoutes, fates_withRoutes, List.map_append, List.map_append,
      List.map_cons, hfailed]
    simp [List.count_append, Nat.add_assoc]
  · intro F
    rw [channel_applyRoutes_eq (hattached' _), channel_applyRoutes_eq (hattached' _),
      channel_withRoutes, channel_withRoutes, withRoutes, withRoutes, List.filter_append,
      List.filter_append]
    by_cases hfamily : entry.family = F
    · subst hfamily
      rw [List.filter_cons_of_pos (by simp)]
      exact sameStanding_of_declines hfails.2 _ _
    · rw [List.filter_cons_of_neg (by simpa using hfamily)]
      exact .refl _

end Attached

variable [Sysctl τ]

/-- **Routes are applied each by itself:** an enabled family takes the routes that can be built for
it in their order, any other is left alone, and without an entry that fails everything else is the
same. -/
theorem applyRoutes_in_order (hreachable : manager.Reachable) (config : Config)
    (interfaces : InterfaceTable) :
    let before : Simulated τ := { manager with config, interfaces }
    let after := (applyRoutes before).state
    let summary := (applyRoutes before).answer
    (∀ F, (manager.channel F).phase = .enabled →
        (manager.channel F).Took (before.routesFor F) (after.channel F)) ∧
      (∀ F, (manager.channel F).phase ≠ .enabled → after.channel F = manager.channel F) ∧
      after.interfaces = interfaces ∧
      summary.applied + summary.failed + summary.skipped = config.routes.length ∧
      summary.skipped = config.routes.countP before.skips ∧
      summary.failed = config.routes.countP before.fails ∧
      ∀ front entry rest, config.routes = front ++ entry :: rest → before.fails entry = true →
        let without := applyRoutes (before.withRoutes (front ++ rest))
        summary = { without.answer with failed := without.answer.failed + 1 } ∧
          ∀ F, Channel.SameStanding (after.channel F) (without.state.channel F) := by
  intro before after summary
  have hchannel : ∀ F, before.channel F = manager.channel F := by
    intro F
    cases F <;> rfl
  have hattached : ∀ F, (before.channel F).Attached := by
    intro F
    rw [hchannel]
    exact (hreachable.lifecycle_channel F).phase_eq_enabled_iff.mp
  obtain ⟨htotal, hskipped, hfailed⟩ := counts_applyRoutes hattached
  refine ⟨?_, ?_, (frame_applyRoutes before).1, htotal, hskipped, hfailed, ?_⟩
  · intro F henabled
    rw [← hchannel] at henabled ⊢
    rw [channel_applyRoutes_eq hattached, takingEntries, if_pos (by simpa [isEnabled])]
    exact took_taking _ _
  · intro F hphase
    rw [← hchannel] at hphase ⊢
    rw [channel_applyRoutes_eq hattached, takingEntries, if_neg (by simpa [isEnabled])]
  · intro front entry rest hroutes hfails
    have hself : before.withRoutes (front ++ entry :: rest) = before := by
      rw [← hroutes]
      rfl
    have hwithout := applyRoutes_without hattached hfails front rest
    rwa [hself] at hwithout

def unknownWay : RouteEntry where
  group := ⟨.v4 ⟨239, 1, 1, 1⟩, Eq.refl true⟩
  inbound := "eth9"
  outbound := ["eth1"]

/-- A group and one host's way to it, a way from an interface that does not exist, and one of the
other family. -/
def fourWays : Config where
  routes := twoWays.routes ++ [unknownWay, ipv6Way]

def fullManager : Simulated RecordingSysctl :=
  (run [.start .basic, .ipv4 (.inject { addRoute := some 12 })]
    { twoWaysManager with config := { twoWays with daemon := { ipv6 := false } } }).state

/-- The kernel refuses the host's way, for the unknown interface there is none, and IPv6 is left
out; the template is taken. -/
theorem fourWays_applied :
    let before : Simulated RecordingSysctl := { fullManager with config := fourWays }
    let after := (applyRoutes before).state
    let without := applyRoutes (before.withRoutes (fourWays.routes.eraseIdx 1))
    fullManager.ipv4.phase = .enabled ∧ fullManager.ipv6.phase = .disabled ∧
      (applyRoutes before).answer = { applied := 1, failed := 2, skipped := 1 } ∧
      (before.routesFor .ipv4).map Route.isWildcard = [true, false] ∧
      fullManager.ipv4.Took (before.routesFor .ipv4) after.ipv4 ∧ after.ipv6 = fullManager.ipv6 ∧
      without.answer = { applied := 1, failed := 1, skipped := 1 } ∧
      after.ipv4.SameStanding without.state.ipv4 := by
  intro before after without
  have hreachable : fullManager.Reachable :=
    ⟨_, ⟨⟨{}, {}, none, rfl⟩, {}, {}, none, rfl⟩, _, rfl⟩
  have henabled : fullManager.ipv4.phase = .enabled := by decide +kernel
  have hdisabled : fullManager.ipv6.phase = .disabled := by decide +kernel
  obtain ⟨htook, hleft, -, -, -, -, hwithout⟩ :=
    applyRoutes_in_order hreachable fourWays fullManager.interfaces
  obtain ⟨-, hsame⟩ := hwithout [_] _ [_, _] rfl (by decide +kernel)
  have hphase : (fullManager.channel .ipv6).phase ≠ .enabled := by
    change fullManager.ipv6.phase ≠ .enabled
    simp [hdisabled]
  exact ⟨henabled, hdisabled, by decide +kernel, by decide +kernel, htook .ipv4 henabled,
    hleft .ipv6 hphase, by decide +kernel, hsame .ipv4⟩

end Manager

end Multicast
