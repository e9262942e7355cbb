import Multicast.Proofs.Channel.Likeness
import Multicast.Proofs.Manager.Family

/-!
# Families do not interfere

The families of a manager share the interface table and the list of routes, and a start serves one
after the other. Two starts are compared here that one of the families cannot tell apart: its
channel, the interfaces as it sees them and its routes are the same, and all that is the other
family's may differ. What the start leaves of this family is then the same as well.
-/

namespace Multicast

open Multicast.Action

variable {F G : Family} {τ τ' : Type}

namespace RouteEntry

variable {table others : InterfaceTable}

theorem slotOf_congr (hseen : table.seenBy F = others.seenBy F) (name : String) :
    slotOf F table name = slotOf F others name := by
  have hfind : (table.findByName? name).map (Interface.only F) =
      (others.findByName? name).map (Interface.only F) := by
    rw [InterfaceTable.map_only_findByName?, InterfaceTable.map_only_findByName?, hseen]
  unfold slotOf
  cases hone : table.findByName? name with
  | none =>
      rw [hone, Option.map_none, eq_comm, Option.map_eq_none_iff] at hfind
      rw [hfind]
  | some iface =>
      rw [hone, Option.map_some, eq_comm, Option.map_eq_some_iff] at hfind
      obtain ⟨twin, hother, htwin⟩ := hfind
      have hslot : F.slotOf twin = F.slotOf iface := by
        rw [← Interface.slotOf_only twin, htwin, Interface.slotOf_only]
      rw [hother]
      dsimp only
      rw [hslot]

theorem toRoute_congr (hseen : table.seenBy F = others.seenBy F) (defaultTtl : UInt8)
    (entry : RouteEntry) :
    entry.toRoute F table defaultTtl = entry.toRoute F others defaultTtl := by
  unfold toRoute
  rw [funext (slotOf_congr hseen)]

end RouteEntry

namespace Manager

section Steps

variable {table others : InterfaceTable}

theorem relates_applyEntry (hseen : table.seenBy F = others.seenBy F) (defaultTtl : UInt8)
    (entry : RouteEntry) :
    Relates Channel.Alike Eq
      (applyEntry table defaultTtl entry : Action (Channel F (SimulatedKernel F) τ) _)
      (applyEntry others defaultTtl entry : Action (Channel F (SimulatedKernel F) τ') _) := by
  unfold applyEntry
  rw [RouteEntry.toRoute_congr hseen]
  refine .bind_eq (.read fun one other halike => ?_) fun enabled => ?_
  · rw [Channel.isEnabled, Channel.isEnabled, halike.phase]
  · split
    · dsimp only
      split
      · refine .bind_eq (.pure rfl) fun result => ?_
        cases result with
        | ok => exact .pure rfl
        | error err => exact .bind_eq (.log _ _) fun _ => .pure rfl
      · refine .bind_eq (Channel.relates_add _) fun added => .bind_eq (.pure rfl) fun result => ?_
        cases result with
        | ok => exact .pure rfl
        | error err => exact .bind_eq (.log _ _) fun _ => .pure rfl
    · exact .bind_eq (.log _ _) fun _ => .pure rfl

variable [Sysctl τ] [Sysctl τ']

theorem relates_enableFamily (hseen : table.seenBy F = others.seenBy F) :
    Relates Channel.Alike (fun answer answer' => answer.map (InterfaceTable.seenBy F) =
        answer'.map (InterfaceTable.seenBy F))
      (enableFamily table : Action (Channel F (SimulatedKernel F) τ) _)
      (enableFamily others : Action (Channel F (SimulatedKernel F) τ') _) := by
  refine .bind (Channel.relates_enable hseen) ?_
  rintro (err | annotated) (err' | annotated') hanswers
  · obtain rfl : err = err' := by simpa [Except.map] using hanswers
    dsimp only
    split
    · exact .bind_eq (.log _ _) fun _ => .pure rfl
    · exact .bind_eq (.log _ _) fun _ => .pure (congrArg Except.ok hseen)
  · cases hanswers
  · cases hanswers
  · have hannotated : annotated.seenBy F = annotated'.seenBy F := by
      simpa [Except.map] using hanswers
    exact .pure (congrArg Except.ok hannotated)

end Steps

/-- A family cannot tell the managers apart, nor what they are asked to do. -/
structure Alike (F : Family) (one : Simulated τ) (other : Simulated τ') : Prop where
  channel : Channel.Alike (one.channel F) (other.channel F)
  seen : one.interfaces.seenBy F = other.interfaces.seenBy F
  wants : one.config.wants F = other.config.wants F
  defaultTtl : one.config.daemon.defaultTtl = other.config.daemon.defaultTtl
  routes : one.config.routes.filter (fun entry => entry.family = F) =
    other.config.routes.filter fun entry => entry.family = F

variable {one after : Simulated τ} {other after' : Simulated τ'}

theorem Alike.of_config_eq (halike : Alike F one other)
    (hchannel : Channel.Alike (after.channel F) (after'.channel F))
    (hseen : after.interfaces.seenBy F = after'.interfaces.seenBy F)
    (hconfig : after.config = one.config) (hconfig' : after'.config = other.config) :
    Alike F after after' where
  channel := hchannel
  seen := hseen
  wants := by rw [hconfig, hconfig', halike.wants]
  defaultTtl := by rw [hconfig, hconfig', halike.defaultTtl]
  routes := by rw [hconfig, hconfig', halike.routes]

theorem Alike.applyRoutes (halike : Alike F one other) :
    Alike F (Manager.applyRoutes one).state (Manager.applyRoutes other).state := by
  obtain ⟨hinterfaces, hconfig⟩ := frame_applyRoutes one
  obtain ⟨hinterfaces', hconfig'⟩ := frame_applyRoutes other
  refine halike.of_config_eq ?_ ?_ hconfig hconfig'
  · rw [channel_applyRoutes, channel_applyRoutes, halike.defaultTtl, halike.routes]
    refine (Relates.each (List.forall₂_same.mpr fun entry _ => ?_) _ _ halike.channel).2
    exact relates_applyEntry halike.seen other.config.daemon.defaultTtl entry
  · rw [hinterfaces, hinterfaces', halike.seen]

theorem seenBy_getD {table others : InterfaceTable}
    {answer answer' : Except DaemonError InterfaceTable}
    (hseen : table.seenBy F = others.seenBy F)
    (hanswers : answer.map (InterfaceTable.seenBy F) = answer'.map (InterfaceTable.seenBy F)) :
    (answer.toOption.getD table).seenBy F = (answer'.toOption.getD others).seenBy F := by
  cases answer with
  | error err =>
      cases answer' with
      | error err' => exact hseen
      | ok annotated' => cases hanswers
  | ok annotated =>
      cases answer' with
      | error err' => cases hanswers
      | ok annotated' => exact Except.ok.inj hanswers

variable [Sysctl τ] [Sysctl τ']

theorem enableOne_self (F : Family) (manager : Simulated τ) :
    let enabled := enableFamily manager.interfaces (manager.channel F)
    (enableOne F manager).state.channel F =
        (if manager.config.wants F then enabled.state else manager.channel F) ∧
      (enableOne F manager).state.interfaces =
        if manager.config.wants F then enabled.answer.toOption.getD manager.interfaces
        else manager.interfaces := by
  intro enabled
  obtain ⟨hwants, -, hstate⟩ | ⟨hwants, err, hanswer, -, hstate⟩ |
    ⟨hwants, interfaces, hanswer, -, hstate⟩ := enableOne_cases F manager
  · rw [hstate, hwants]
    exact ⟨rfl, rfl⟩
  · rw [hstate, hwants, channel_onFamily, interfaces_onFamily, show enabled.answer = _ from hanswer]
    exact ⟨rfl, rfl⟩
  · rw [hstate, hwants, channel_interfaces, channel_onFamily, show enabled.answer = _ from hanswer]
    exact ⟨rfl, rfl⟩

theorem Alike.enableOne (halike : Alike F one other) (G : Family) :
    Alike F (Manager.enableOne G one).state (Manager.enableOne G other).state := by
  refine halike.of_config_eq ?_ ?_ (config_enableOne G one) (config_enableOne G other)
  -- the other family is not compared: on either side what it does is not seen
  · by_cases hne : F ≠ G
    · rw [(enableOne_of_ne hne one).1, (enableOne_of_ne hne other).1]
      exact halike.channel
    · obtain rfl : F = G := by simpa using hne
      rw [(enableOne_self F one).1, (enableOne_self F other).1, halike.wants]
      split
      · exact (relates_enableFamily halike.seen _ _ halike.channel).2
      · exact halike.channel
  · by_cases hne : F ≠ G
    · rw [(enableOne_of_ne hne one).2.seenBy_eq hne, (enableOne_of_ne hne other).2.seenBy_eq hne]
      exact halike.seen
    · obtain rfl : F = G := by simpa using hne
      rw [(enableOne_self F one).2, (enableOne_self F other).2, halike.wants]
      split
      · exact seenBy_getD halike.seen (relates_enableFamily halike.seen _ _ halike.channel).1
      · exact halike.seen

theorem Alike.start {table others : InterfaceTable}
    (halike : Alike F { one with interfaces := table } { other with interfaces := others })
    {summary summary' : Summary} (hok : (start table one).answer = .ok summary)
    (hok' : (start others other).answer = .ok summary') :
    Alike F (Manager.start table one).state (Manager.start others other).state := by
  have henabled := (halike.enableOne .ipv4).enableOne .ipv6
  obtain ⟨err, -, hanswer, -⟩ | ⟨-, err, -, hanswer, -⟩ | ⟨-, -, -, hstate⟩ :=
    start_cases table one rfl rfl
  · rw [hanswer] at hok
    cases hok
  · rw [hanswer] at hok
    cases hok
  · obtain ⟨err, -, hanswer, -⟩ | ⟨-, err, -, hanswer, -⟩ | ⟨-, -, -, hstate'⟩ :=
      start_cases others other rfl rfl
    · rw [hanswer] at hok'
      cases hok'
    · rw [hanswer] at hok'
      cases hok'
    · rw [hstate, hstate']
      exact henabled.applyRoutes

omit [Sysctl τ] [Sysctl τ'] in
theorem New.alike (hone : one.New) (hother : other.New)
    (hfaults : (one.channel F).kernel.faults = (other.channel F).kernel.faults) :
    Channel.Alike (one.channel F) (other.channel F) := by
  obtain ⟨faults, sysctl, path, hfresh⟩ := hone.channel_eq F
  obtain ⟨faults', sysctl', path', hfresh'⟩ := hother.channel_eq F
  rw [hfresh, hfresh'] at hfaults ⊢
  obtain rfl : faults = faults' := hfaults
  exact Channel.alike_fresh faults sysctl path sysctl' path'

/-- **Families do not interfere:** two starts that give a family the same kernel, routes, TTL and
interfaces leave the same of it, whatever is asked for the other and however its kernel fails. -/
theorem start_independent (hone : one.New) (hother : other.New) (F : Family)
    (hfaults : (one.channel F).kernel.faults = (other.channel F).kernel.faults)
    (hwants : one.config.wants F = other.config.wants F)
    (hdefault : one.config.daemon.defaultTtl = other.config.daemon.defaultTtl)
    (hroutes : one.config.routes.filter (fun entry => entry.family = F) =
      other.config.routes.filter fun entry => entry.family = F)
    {table others : InterfaceTable} (hseen : table.seenBy F = others.seenBy F)
    {summary summary' : Summary} (hok : (start table one).answer = .ok summary)
    (hok' : (start others other).answer = .ok summary') :
    let after := (start table one).state
    let after' := (start others other).state
    Channel.Alike (after.channel F) (after'.channel F) ∧
      after.interfaces.seenBy F = after'.interfaces.seenBy F := by
  have halike : Alike F { one with interfaces := table } { other with interfaces := others } :=
    ⟨by simpa using hone.alike hother hfaults, hseen, hwants, hdefault, hroutes⟩
  have hstarted := halike.start hok hok'
  exact ⟨hstarted.channel, hstarted.seen⟩

def ipv6Way : RouteEntry where
  group := ⟨.v6 ⟨#v[0xff0e, 0, 0, 0, 0, 0, 0, 1]⟩, by decide⟩
  inbound := "eth1"
  outbound := ["eth0"]

/-- An IPv6 route comes before each of the two ways, on a kernel without IPv6. -/
def threeWaysManager : Simulated SwitchFile where
  config := { routes := twoWays.routes.flatMap fun entry => [ipv6Way, entry] }
  ipv4 := Channel.fresh {} .missing none
  ipv6 := Channel.fresh { openSocket := some 93 } .missing (some "/a")

theorem twoWays_undisturbed :
    let table := InterfaceTable.basic.annotate .ipv6 [some 7, none, some 3]
    let after := (start .basic twoWaysManager).state
    let after' := (start table threeWaysManager).state
    (start .basic twoWaysManager).answer.toOption = some { applied := 2 } ∧
      (start table threeWaysManager).answer.toOption = some { applied := 2, skipped := 2 } ∧
      after.ipv6.phase = .enabled ∧ after'.ipv6.phase = .disabled ∧
      Channel.Alike after.ipv4 after'.ipv4 ∧
      after.interfaces.seenBy .ipv4 = after'.interfaces.seenBy .ipv4 := by
  intro table after after'
  have hnew : twoWaysManager.New := ⟨⟨{}, {}, none, rfl⟩, {}, {}, none, rfl⟩
  have hnew' : threeWaysManager.New :=
    ⟨⟨{}, .missing, none, rfl⟩, { openSocket := some 93 }, .missing, some "/a", rfl⟩
  have hroutes : twoWaysManager.config.routes.filter (fun entry => entry.family = .ipv4) =
      threeWaysManager.config.routes.filter fun entry => entry.family = .ipv4 := by decide +kernel
  have hok : (start .basic twoWaysManager).answer.isOk = true := by decide +kernel
  have hok' : (start table threeWaysManager).answer.isOk = true := by decide +kernel
  obtain ⟨summary, hok⟩ := isOk_iff.mp hok
  obtain ⟨summary', hok'⟩ := isOk_iff.mp hok'
  have hindependent := start_independent hnew hnew' .ipv4 rfl rfl rfl hroutes
    (InterfaceTable.seenBy_annotate_of_ne (by decide) _ _).symm hok hok'
  exact ⟨by decide +kernel, by decide +kernel, by decide +kernel, by decide +kernel, hindependent⟩

end Manager

end Multicast
