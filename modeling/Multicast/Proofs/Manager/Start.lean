import Multicast.Interface.Samples
import Multicast.Proofs.Cache
import Multicast.Proofs.Manager.Operation
import Multicast.Proofs.Manager.Translation

/-!
# What a start leaves in the kernels

A start annotates the interfaces for one family after the other and then applies the routes. The
slots that the second family records do not touch those of the first, and slots recorded earlier are
all overwritten, so every slot that a route names was registered in this start.
-/

namespace Multicast.Manager

open Multicast.Action SimulatedKernel

variable {F : Family} {τ : Type}

/-! ### Enabling -/

/-- The channel holds no routes, and what is recorded on the interfaces is what its kernel has
registered, if it is enabled. -/
structure Ready (interfaces : InterfaceTable) (channel : Channel F (SimulatedKernel F) τ) :
    Prop where
  registry : channel.registry = .empty
  cache : channel.kernel.cache = []
  serves : channel.phase = .enabled →
    Channel.Serves F interfaces channel.kernel.registered

theorem ready_of_idle {interfaces : InterfaceTable} {channel : Channel F (SimulatedKernel F) τ}
    (hidle : channel.Idle) (hphase : channel.phase ≠ .enabled) : Ready interfaces channel where
  registry := hidle.registry
  cache := hidle.cache
  serves := fun henabled => absurd henabled hphase

theorem Ready.annotate {G : Family} {interfaces : InterfaceTable}
    {channel : Channel F (SimulatedKernel F) τ} (hready : Ready interfaces channel) (hne : F ≠ G)
    (slots : List (Option SlotIndex)) : Ready (interfaces.annotate G slots) channel :=
  { hready with serves := fun henabled => (hready.serves henabled).annotate hne slots }

/-- The one table is the other, but for the slots of a family. -/
def Annotates (F : Family) (interfaces annotated : InterfaceTable) : Prop :=
  annotated = interfaces ∨ ∃ slots, annotated = interfaces.annotate F slots

theorem Annotates.identities {interfaces annotated : InterfaceTable}
    (hannotates : Annotates F interfaces annotated) :
    annotated.identities = interfaces.identities := by
  rcases hannotates with rfl | ⟨slots, rfl⟩
  · rfl
  · exact InterfaceTable.identities_annotate slots

theorem Ready.of_annotates {G : Family} {interfaces annotated : InterfaceTable}
    {channel : Channel F (SimulatedKernel F) τ} (hready : Ready interfaces channel) (hne : F ≠ G)
    (hannotates : Annotates G interfaces annotated) : Ready annotated channel := by
  rcases hannotates with rfl | ⟨slots, rfl⟩
  · exact hready
  · exact hready.annotate hne slots

variable [Sysctl τ]

theorem ready_enableFamily {interfaces annotated : InterfaceTable}
    {channel : Channel F (SimulatedKernel F) τ} (hlife : channel.Lifecycle)
    (hphase : channel.phase ≠ .enabled)
    (hok : (enableFamily interfaces channel).answer = .ok annotated) :
    Ready annotated (enableFamily interfaces channel).state ∧
      Annotates F interfaces annotated := by
  rw [answer_enableFamily] at hok
  rw [state_enableFamily]
  obtain ⟨henabled, -⟩ | ⟨-, ⟨err, herr⟩, hidle, hdisabled⟩ |
    ⟨-, claimed, -, hcache, hregistered, hanswer, hstate⟩ := hlife.enable_cases interfaces
  · exact absurd henabled hphase
  · simp only [herr] at hok
    split at hok
    · cases hok
    · cases hok
      exact ⟨ready_of_idle hidle (by simp [hdisabled]), .inl rfl⟩
  · simp only [hanswer, Except.ok.injEq] at hok
    rw [← hok, hstate]
    have hannotated := (Channel.setUp_eq interfaces hregistered).1
    refine ⟨⟨?_, ?_, fun _ => Channel.serves_setUp interfaces hregistered⟩, .inr ⟨_, hannotated⟩⟩
    · rw [Channel.state_setUp]
    · exact (Channel.frame_setUp interfaces claimed).1.trans hcache

/-- Both families are ready for routes, on interfaces that are told apart as in a table. -/
structure Prepared (table : InterfaceTable) (manager : Simulated τ) : Prop where
  identities : manager.interfaces.identities = table.identities
  ipv4 : Ready manager.interfaces manager.ipv4
  ipv6 : Ready manager.interfaces manager.ipv6

variable {table : InterfaceTable} {manager : Simulated τ}

theorem Prepared.enableIPv4 (hprepared : Prepared table manager)
    (hlife : manager.ipv4.Lifecycle) (hphase : manager.ipv4.phase ≠ .enabled)
    (hok : (enableIPv4 manager).answer = .ok ()) :
    Prepared table (Manager.enableIPv4 manager).state ∧
      (Manager.enableIPv4 manager).state.config = manager.config ∧
      (Manager.enableIPv4 manager).state.ipv6 = manager.ipv6 := by
  obtain ⟨-, -, hstate⟩ | ⟨-, err, -, hanswer, -⟩ | ⟨-, annotated, henable, -, hstate⟩ :=
    enableWanted_cases .ipv4 (fun table => onIPv4 (enableFamily table)) manager
  · rw [Manager.enableIPv4, hstate]
    exact ⟨hprepared, rfl, rfl⟩
  · rw [Manager.enableIPv4, hanswer] at hok
    cases hok
  · obtain ⟨hready, hannotates⟩ := ready_enableFamily hlife hphase henable
    rw [Manager.enableIPv4, hstate]
    refine ⟨⟨?_, hready, ?_⟩, rfl, rfl⟩
    · exact hannotates.identities.trans hprepared.identities
    · exact hprepared.ipv6.of_annotates (by decide) hannotates

theorem Prepared.enableIPv6 (hprepared : Prepared table manager)
    (hlife : manager.ipv6.Lifecycle) (hphase : manager.ipv6.phase ≠ .enabled)
    (hok : (enableIPv6 manager).answer = .ok ()) :
    Prepared table (Manager.enableIPv6 manager).state ∧
      (Manager.enableIPv6 manager).state.config = manager.config := by
  obtain ⟨-, -, hstate⟩ | ⟨-, err, -, hanswer, -⟩ | ⟨-, annotated, henable, -, hstate⟩ :=
    enableWanted_cases .ipv6 (fun table => onIPv6 (enableFamily table)) manager
  · rw [Manager.enableIPv6, hstate]
    exact ⟨hprepared, rfl⟩
  · rw [Manager.enableIPv6, hanswer] at hok
    cases hok
  · obtain ⟨hready, hannotates⟩ := ready_enableFamily hlife hphase henable
    rw [Manager.enableIPv6, hstate]
    refine ⟨⟨?_, ?_, hready⟩, rfl⟩
    · exact hannotates.identities.trans hprepared.identities
    · exact hprepared.ipv4.of_annotates (by decide) hannotates

/-! ### Applying routes -/

/-- Each route of the channel is built from an entry, with slots that its kernel has registered for
the interfaces they are recorded on. -/
structure Serving (config : Config) (interfaces : InterfaceTable)
    (channel : Channel F (SimulatedKernel F) τ) : Prop where
  serves : channel.phase = .enabled → Channel.Serves F interfaces channel.kernel.registered
  built : ∀ route, route ∈ channel.registry.templates ∨ route ∈ channel.kernel.cache →
    ∃ entry ∈ config.routes,
      entry.toRoute F interfaces config.daemon.defaultTtl = .ok route

omit [Sysctl τ] in
theorem Ready.serving {interfaces : InterfaceTable} {channel : Channel F (SimulatedKernel F) τ}
    (hready : Ready interfaces channel) (config : Config) : Serving config interfaces channel where
  serves := hready.serves
  built := by simp [hready.registry, hready.cache, Registry.empty]

omit [Sysctl τ] in
theorem mem_of_mem_add {route other : Route F} {channel : Channel F (SimulatedKernel F) τ}
    (hmem : other ∈ (Channel.add route channel).state.registry.templates ∨
      other ∈ (Channel.add route channel).state.kernel.cache) :
    other = route ∨ other ∈ channel.registry.templates ∨ other ∈ channel.kernel.cache := by
  rw [Channel.state_add] at hmem
  by_cases hholds : channel.holdsSocket = true
  · rw [if_pos hholds] at hmem
    by_cases hwild : route.isWildcard = true
    · simp only [Channel.routed, Registry.Operation.effect, Registry.Operation.calls, hwild,
        if_true, Registry.addTemplate, List.foldl_nil, List.mem_append, List.mem_singleton] at hmem
      grind
    · simp only [Channel.routed, Registry.Operation.effect, Registry.Operation.calls, hwild,
        Bool.false_eq_true, if_false, List.foldl_cons, List.foldl_nil] at hmem
      refine hmem.elim (fun htemplate => .inr (.inl htemplate)) fun hcache => ?_
      rw [cache_apply_add] at hcache
      split at hcache
      · exact (mem_of_mem_store hcache).imp_right .inr
      · exact .inr (.inr hcache)
  · rw [if_neg hholds] at hmem
    exact .inr hmem

omit [Sysctl τ] in
theorem frame_add (route : Route F) (channel : Channel F (SimulatedKernel F) τ) :
    (Channel.add route channel).state.phase = channel.phase ∧
      (Channel.add route channel).state.kernel.registered = channel.kernel.registered := by
  rw [Channel.state_add]
  split
  · exact ⟨rfl, (frame_foldl_apply _ _).1⟩
  · exact ⟨rfl, rfl⟩

omit [Sysctl τ] in
theorem Serving.applyEntry {config : Config} {interfaces : InterfaceTable}
    {channel : Channel F (SimulatedKernel F) τ} (hserving : Serving config interfaces channel)
    {entry : RouteEntry} (hentry : entry ∈ config.routes) :
    Serving config interfaces
      (Manager.applyEntry interfaces config.daemon.defaultTtl entry channel).state := by
  obtain hsame | ⟨route, hroute, hadd⟩ :=
    state_applyEntry interfaces config.daemon.defaultTtl entry channel
  · rw [hsame]
    exact hserving
  · obtain ⟨hphase, hregistered⟩ := frame_add route channel
    rw [hadd]
    refine ⟨fun henabled => ?_, fun other hmem => ?_⟩
    · rw [hregistered]
      exact hserving.serves (hphase ▸ henabled)
    · rcases mem_of_mem_add hmem with rfl | hold
      · exact ⟨entry, hentry, hroute⟩
      · exact hserving.built other hold

omit [Sysctl τ] in
theorem serving_applyRoutes
    (hipv4 : Serving manager.config manager.interfaces manager.ipv4)
    (hipv6 : Serving manager.config manager.interfaces manager.ipv6) :
    Serving manager.config manager.interfaces (applyRoutes manager).state.ipv4 ∧
      Serving manager.config manager.interfaces (applyRoutes manager).state.ipv6 := by
  refine Action.state_each_of_forall
    (fun after : Simulated τ => Serving manager.config manager.interfaces after.ipv4 ∧
      Serving manager.config manager.interfaces after.ipv6) ?_ ⟨hipv4, hipv6⟩
  intro entry hentry before hbefore
  rw [applyOne]
  split
  · exact ⟨hbefore.1.applyEntry hentry, hbefore.2⟩
  · exact ⟨hbefore.1, hbefore.2.applyEntry hentry⟩

theorem serving_start (hreachable : manager.Reachable) (hipv4 : manager.ipv4.phase = .disabled)
    (hipv6 : manager.ipv6.phase = .disabled) (table : InterfaceTable) {summary : Summary}
    (hok : (start table manager).answer = .ok summary) :
    ∃ interfaces : InterfaceTable, interfaces.identities = table.identities ∧
      Serving manager.config interfaces (start table manager).state.ipv4 ∧
      Serving manager.config interfaces (start table manager).state.ipv6 := by
  obtain ⟨hlife, hlife'⟩ := hreachable.lifecycle
  have hphase : manager.ipv4.phase ≠ .enabled := by simp [hipv4]
  have hphase' : manager.ipv6.phase ≠ .enabled := by simp [hipv6]
  -- a disabled channel is idle, so both are ready for routes before anything is enabled
  have hbegun : Prepared table { manager with interfaces := table } :=
    ⟨rfl, ready_of_idle (hlife.idle_of_ne hphase) hphase,
      ready_of_idle (hlife'.idle_of_ne hphase') hphase'⟩
  obtain ⟨err, -, hanswer, -⟩ | ⟨-, err, -, hanswer, -⟩ | ⟨hfirst, hsecond, -, hstate⟩ :=
    start_cases table manager rfl rfl
  · rw [hanswer] at hok
    cases hok
  · rw [hanswer] at hok
    cases hok
  · obtain ⟨hprepared, hconfig, hsame⟩ := hbegun.enableIPv4 hlife hphase hfirst
    obtain ⟨hready, hconfig'⟩ :=
      hprepared.enableIPv6 (by rwa [hsame]) (by rwa [hsame]) hsecond
    have hserving := serving_applyRoutes (hready.ipv4.serving _) (hready.ipv6.serving _)
    rw [hconfig', hconfig] at hserving
    rw [hstate]
    exact ⟨_, hready.identities, hserving⟩

omit [Sysctl τ] in
theorem Serving.realizes {config : Config} {interfaces : InterfaceTable}
    {channel : Channel F (SimulatedKernel F) τ} (hserving : Serving config interfaces channel)
    (hsame : interfaces.identities = table.identities) (hvalid : config.validate = .ok ())
    (hspecified : ∀ entry ∈ config.routes, entry.source.Specified)
    (henabled : channel.phase = .enabled) {route : Route F}
    (hmem : route ∈ channel.registry.templates ∨ route ∈ channel.kernel.cache) :
    ∃ entry ∈ config.routes,
      entry.Realizes config.daemon.defaultTtl table channel.kernel.registered route := by
  obtain ⟨hdefault, hentries⟩ := Config.of_validate_eq_ok hvalid
  obtain ⟨entry, hentry, hroute⟩ := hserving.built route hmem
  exact ⟨entry, hentry, RouteEntry.realizes_of_toRoute (hserving.serves henabled) hsame
    (hentries entry hentry) hdefault (hspecified entry hentry) hroute⟩

/-- **Routes mean what is configured:** after a start that goes through, each template and each
entry of the cache realizes a configured route between the interfaces that the kernel has
registered. -/
theorem start_realizes (hreachable : manager.Reachable) (hipv4 : manager.ipv4.phase = .disabled)
    (hipv6 : manager.ipv6.phase = .disabled) (hvalid : manager.config.validate = .ok ())
    (hspecified : ∀ entry ∈ manager.config.routes, entry.source.Specified)
    (table : InterfaceTable) {summary : Summary}
    (hok : (start table manager).answer = .ok summary) :
    let after := (start table manager).state
    (after.ipv4.phase = .enabled → ∀ route,
      route ∈ after.ipv4.registry.templates ∨ route ∈ after.ipv4.kernel.cache →
        ∃ entry ∈ manager.config.routes, entry.Realizes manager.config.daemon.defaultTtl table
          after.ipv4.kernel.registered route) ∧
      (after.ipv6.phase = .enabled → ∀ route,
        route ∈ after.ipv6.registry.templates ∨ route ∈ after.ipv6.kernel.cache →
          ∃ entry ∈ manager.config.routes, entry.Realizes manager.config.daemon.defaultTtl table
            after.ipv6.kernel.registered route) := by
  obtain ⟨interfaces, hsame, hserving, hserving'⟩ :=
    serving_start hreachable hipv4 hipv6 table hok
  exact ⟨fun henabled route hmem =>
      hserving.realizes hsame hvalid hspecified henabled hmem,
    fun henabled route hmem => hserving'.realizes hsame hvalid hspecified henabled hmem⟩

/-- A group sent to the second interface, but by one host to the first. -/
def twoWays : Config where
  routes :=
    [{ group := ⟨.v4 ⟨239, 1, 1, 1⟩, by decide⟩, inbound := "eth0", outbound := ["eth1"] },
     { source := .host (.v4 ⟨10, 0, 0, 5⟩)
       group := ⟨.v4 ⟨239, 1, 1, 1⟩, by decide⟩
       inbound := "eth1"
       outbound := ["eth0"]
       ttl := some 5 }]

def twoWaysManager : Simulated RecordingSysctl where
  config := twoWays
  ipv4 := Channel.fresh {} {} none
  ipv6 := Channel.fresh {} {} none

def hostRoute : Route .ipv4 :=
  .concrete ⟨10, 0, 0, 5⟩ ⟨239, 1, 1, 1⟩ 1 (Family.Outbound.set .empty 0 5)

theorem hostRoute_realizes :
    let after := (start .basic twoWaysManager).state
    (start .basic twoWaysManager).answer = .ok { applied := 2 } ∧
      after.ipv4.phase = .enabled ∧ hostRoute ∈ after.ipv4.kernel.cache ∧
      ∃ entry ∈ twoWays.routes, entry.Realizes 1 .basic after.ipv4.kernel.registered hostRoute := by
  have hreachable : twoWaysManager.Reachable :=
    ⟨twoWaysManager, ⟨⟨{}, {}, none, rfl⟩, {}, {}, none, rfl⟩, [], rfl⟩
  have hspecified : ∀ entry ∈ twoWaysManager.config.routes, entry.source.Specified := by decide
  have hok : (start .basic twoWaysManager).answer = .ok { applied := 2 } := by rfl
  have hmeaning := start_realizes hreachable rfl rfl rfl hspecified .basic hok
  exact ⟨hok, by decide +kernel, by decide +kernel,
    hmeaning.1 (by decide +kernel) hostRoute (.inr (by decide +kernel))⟩

end Multicast.Manager
