import Multicast.Interface.Samples
import Multicast.Proofs.Manager.Family

/-!
# When interfaces agree with the slots

Routes are built from the slots recorded on the manager's interfaces, which are right as long as
they are those that the channels gave out. A family that is enabled records its slots, and a reload
gives both families up first. A start does not: it puts other interfaces in place and then leaves a
family that is enabled already as it is, so from there on the slots are right only if the interfaces
came with them.
-/

namespace Multicast

open Multicast.Action

variable {F G : Family} {τ : Type}

/-- The slot recorded on an interface is the one that is bound to its index, and there is none if
none is bound. -/
def InterfaceTable.Agrees (F : Family) (interfaces : InterfaceTable) (slots : SlotTable) : Prop :=
  ∀ iface ∈ interfaces.entries, ∀ slot,
    F.slotOf iface = some slot ↔ (slots.get? slot).map Binding.ifindex = some iface.ifindex

theorem InterfaceTable.agrees_congr {table others : InterfaceTable}
    (hseen : table.seenBy F = others.seenBy F) (slots : SlotTable) :
    table.Agrees F slots ↔ others.Agrees F slots := by
  have hagrees : ∀ table : InterfaceTable, table.Agrees F slots ↔
      ∀ iface ∈ table.seenBy F, ∀ slot,
        F.slotOf iface = some slot ↔
          (slots.get? slot).map Binding.ifindex = some iface.ifindex := by
    intro table
    rw [seenBy, List.forall_mem_map]
    simp only [Interface.slotOf_only, Interface.ifindex_only]
    rfl
  rw [hagrees, hagrees, hseen]

theorem idxOf?_eq_some_iff_of_nodup {α : Type} [DecidableEq α] {xs : List α} (hnodup : xs.Nodup)
    {x : α} {place : Nat} : xs.idxOf? x = some place ↔ xs[place]? = some x := by
  rw [List.idxOf?_eq_some_iff, List.getElem?_eq_some_iff]
  refine ⟨fun ⟨hlt, hget, _⟩ => ⟨hlt, hget⟩, fun ⟨hlt, hget⟩ => ⟨hlt, hget, ?_⟩⟩
  intro earlier hearlier heq
  have hplace := (List.getElem_inj hnodup).mp (heq.trans hget.symm)
  omega

namespace Channel

theorem Assigns.agrees {accepts : Interface → Bool} {table annotated : InterfaceTable}
    {channel : Channel F (SimulatedKernel F) τ}
    (hassigns : Assigns ((table.entries.filter accepts).take slotCount) table annotated channel) :
    annotated.Agrees F channel.slots := by
  set seated := (table.entries.filter accepts).take slotCount with hseated
  have hsub : seated.Sublist table.entries :=
    (List.take_sublist _ _).trans List.filter_sublist
  have hnodup : seated.Nodup := table.nodup_entries.sublist hsub
  have hlength : seated.length ≤ slotCount := List.length_take_le _ _
  intro iface hiface slot
  rw [hassigns.entries] at hiface
  obtain ⟨before, hbefore, rfl⟩ := List.mem_map.mp hiface
  rw [Family.slotOf_annotate, Family.ifindex_annotate, hassigns.slots]
  constructor
  · intro hrecorded
    obtain ⟨place, hplace, rfl⟩ := Option.map_eq_some_iff.mp hrecorded
    have hget := (idxOf?_eq_some_iff_of_nodup hnodup).mp hplace
    have hlt := (List.getElem?_eq_some_iff.mp hget).1
    rw [toNat_slot (by omega), hget]
    rfl
  · intro hbound
    rw [Option.map_map, Option.map_eq_some_iff] at hbound
    obtain ⟨other, hget, hifindex⟩ := hbound
    -- an index belongs to one interface of a table
    have hother : other = before :=
      table.eq_of_ifindex_eq (hsub.mem (List.mem_of_getElem? hget)) hbefore hifindex
    rw [hother] at hget
    rw [(idxOf?_eq_some_iff_of_nodup hnodup).mpr hget, Option.map_some, UInt16.ofNat_toNat]

/-- A channel that is enabled after was so before, on the same slots. -/
def Continues (before after : Channel F (SimulatedKernel F) τ) : Prop :=
  after.phase = .enabled → before.phase = .enabled ∧ after.slots = before.slots

theorem Continues.of_disabled {before after : Channel F (SimulatedKernel F) τ}
    (hdisabled : after.phase = .disabled) : Continues before after := by
  intro henabled
  rw [hdisabled] at henabled
  cases henabled

theorem phase_disable (channel : Channel F (SimulatedKernel F) τ) :
    (disable channel).state.phase = .disabled := by
  rw [state_disable]
  split <;> rfl

theorem slots_whenEnabled (operation : Registry.Operation F)
    (channel : Channel F (SimulatedKernel F) τ) :
    (whenEnabled operation.perform channel).state.phase = channel.phase ∧
      (whenEnabled operation.perform channel).state.slots = channel.slots := by
  rw [state_whenEnabled]
  split <;> exact ⟨rfl, rfl⟩

variable [Sysctl τ]

theorem continues_perform {operation : Operation F} (hnot : ∀ table, operation ≠ .enable table)
    (channel : Channel F (SimulatedKernel F) τ) :
    Continues channel (operation.perform channel).state := by
  have hroute : ∀ route : Registry.Operation F,
      Continues channel (whenEnabled route.perform channel).state := by
    intro route henabled
    obtain ⟨hphase, hslots⟩ := slots_whenEnabled route channel
    exact ⟨hphase ▸ henabled, hslots⟩
  cases operation with
  | enable table => exact absurd rfl (hnot table)
  | disable => exact .of_disabled (phase_disable channel)
  | add route => exact hroute (.add route)
  | remove route => exact hroute (.remove route)
  | resolve flow => exact hroute (.resolve flow)
  | inject faults => exact fun henabled => ⟨henabled, rfl⟩

end Channel

namespace Manager

variable {before middle after manager : Simulated τ}

/-! ### Starting -/

/-- A family that was enabled still is, on the same slots, and the interfaces agree with them as
they did; one that is newly enabled agrees with the interfaces. -/
structure Settles (F : Family) (before after : Simulated τ) : Prop where
  of_enabled : (before.channel F).phase = .enabled →
    (after.channel F).phase = .enabled ∧ (after.channel F).slots = (before.channel F).slots ∧
      (after.interfaces.Agrees F (before.channel F).slots ↔
        before.interfaces.Agrees F (before.channel F).slots)
  of_not_enabled : (before.channel F).phase ≠ .enabled → (after.channel F).phase = .enabled →
    after.interfaces.Agrees F (after.channel F).slots

theorem Settles.of_same (hphase : (after.channel F).phase = (before.channel F).phase)
    (hslots : (after.channel F).slots = (before.channel F).slots)
    (hagrees : after.interfaces.Agrees F (before.channel F).slots ↔
      before.interfaces.Agrees F (before.channel F).slots) : Settles F before after where
  of_enabled := fun henabled => ⟨hphase.trans henabled, hslots, hagrees⟩
  of_not_enabled := fun hnot henabled => absurd (hphase ▸ henabled) hnot

theorem Settles.trans (hfirst : Settles F before middle) (hnext : Settles F middle after) :
    Settles F before after where
  of_enabled := by
    intro henabled
    obtain ⟨hmiddle, hslots, hagrees⟩ := hfirst.of_enabled henabled
    obtain ⟨hafter, hslots', hagrees'⟩ := hnext.of_enabled hmiddle
    rw [hslots] at hslots' hagrees'
    exact ⟨hafter, hslots', hagrees'.trans hagrees⟩
  of_not_enabled := by
    intro hnot hafter
    by_cases hmiddle : (middle.channel F).phase = .enabled
    · obtain ⟨-, hslots, hagrees⟩ := hnext.of_enabled hmiddle
      rw [hslots]
      exact hagrees.mpr (hfirst.of_not_enabled hnot hmiddle)
    · exact hnext.of_not_enabled hmiddle hafter

variable [Sysctl τ]

theorem enableFamily_cases {channel : Channel F (SimulatedKernel F) τ} (hlife : channel.Lifecycle)
    (interfaces : InterfaceTable) :
    (channel.phase = .enabled ∧ (enableFamily interfaces channel).answer = .ok interfaces ∧
      (enableFamily interfaces channel).state = channel) ∨
    (channel.phase ≠ .enabled ∧ (enableFamily interfaces channel).state.phase = .disabled) ∨
    (channel.phase ≠ .enabled ∧ ∃ annotated,
      (enableFamily interfaces channel).answer = .ok annotated ∧
        annotated.Agrees F (enableFamily interfaces channel).state.slots) := by
  rw [answer_enableFamily, state_enableFamily]
  obtain ⟨hphase, hanswer, hstate⟩ | ⟨hphase, err, -, -, hstate⟩ | ⟨hphase, -, hanswer, -⟩ :=
    Channel.enable_cases interfaces channel
  · exact .inl ⟨hphase, by simp [hanswer, RoutingError.isFatal], hstate⟩
  · exact .inr (.inl ⟨hphase, by rw [hstate]⟩)
  · obtain ⟨hannotated, hholding⟩ := hlife.enable_eq hphase hanswer
    refine .inr (.inr ⟨hphase, _, by rw [hanswer], ?_⟩)
    rw [hannotated]
    exact hholding.assigns.agrees

theorem settles_enableOne (hlife : (manager.channel F).Lifecycle) (G : Family) :
    Settles F manager (enableOne G manager).state := by
  by_cases hne : F ≠ G
  · obtain ⟨hsame, hannotates⟩ := enableOne_of_ne hne manager
    exact .of_same (by rw [hsame]) (by rw [hsame])
      (InterfaceTable.agrees_congr (hannotates.seenBy_eq hne) _)
  obtain rfl : F = G := by simpa using hne
  obtain ⟨-, -, hstate⟩ | ⟨-, err, hfails, -, hstate⟩ | ⟨-, interfaces, hok, -, hstate⟩ :=
    enableOne_cases F manager
  · rw [hstate]
    exact .of_same rfl rfl Iff.rfl
  -- that a family is enabled already is no fatal failure, so only a claim can have failed here
  · obtain ⟨-, hanswer, -⟩ | ⟨hphase, hdisabled⟩ | ⟨-, annotated, hanswer, -⟩ :=
      enableFamily_cases hlife manager.interfaces
    · rw [hanswer] at hfails
      cases hfails
    · refine ⟨fun henabled => absurd henabled hphase, fun _ henabled => ?_⟩
      rw [hstate, channel_onFamily, hdisabled] at henabled
      cases henabled
    · rw [hanswer] at hfails
      cases hfails
  · rw [hstate]
    obtain ⟨henabled, hanswer, hsame⟩ | ⟨hphase, hdisabled⟩ |
      ⟨hphase, annotated, hanswer, hagrees⟩ := enableFamily_cases hlife manager.interfaces
    · rw [hanswer, Except.ok.injEq] at hok
      refine .of_same ?_ ?_ (by rw [hok])
      · rw [channel_interfaces, channel_onFamily, hsame]
      · rw [channel_interfaces, channel_onFamily, hsame]
    · refine ⟨fun henabled => absurd henabled hphase, fun _ henabled => ?_⟩
      rw [channel_interfaces, channel_onFamily, hdisabled] at henabled
      cases henabled
    · rw [hanswer, Except.ok.injEq] at hok
      refine ⟨fun henabled => absurd henabled hphase, fun _ _ => ?_⟩
      rw [channel_interfaces, channel_onFamily, ← hok]
      exact hagrees

omit [Sysctl τ] in
theorem slots_applyRoutes (manager : Simulated τ) (F : Family) :
    ((applyRoutes manager).state.channel F).phase = (manager.channel F).phase ∧
      ((applyRoutes manager).state.channel F).slots = (manager.channel F).slots := by
  rw [channel_applyRoutes]
  refine Action.state_each_of_forall
    (fun after : Channel F (SimulatedKernel F) τ => after.phase = (manager.channel F).phase ∧
      after.slots = (manager.channel F).slots) ?_ ⟨rfl, rfl⟩
  rintro entry - before ⟨hphase, hslots⟩
  obtain hsame | ⟨route, -, hadd⟩ := state_applyEntry manager.interfaces
    manager.config.daemon.defaultTtl entry before
  · rw [hsame]
    exact ⟨hphase, hslots⟩
  · obtain ⟨hphase', hslots'⟩ := Channel.slots_whenEnabled (.add route) before
    rw [hadd]
    exact ⟨hphase'.trans hphase, hslots'.trans hslots⟩

theorem settles_start (hlife : ∀ F, (manager.channel F).Lifecycle) (table : InterfaceTable)
    (F : Family) :
    Settles F { manager with interfaces := table } (start table manager).state := by
  have hipv4 : Settles F { manager with interfaces := table }
      (enableIPv4 { manager with interfaces := table }).state :=
    settles_enableOne (by simpa using hlife F) .ipv4
  have hdrives := drives_enableIPv4 { manager with interfaces := table }
  have hlife' := (hlife F).reaches (by simpa using hdrives.channel F)
  have hipv6 := hipv4.trans (settles_enableOne hlife' .ipv6)
  obtain ⟨err, -, -, hstate⟩ | ⟨-, err, -, -, hstate⟩ | ⟨-, -, -, hstate⟩ :=
    start_cases table manager rfl rfl
  · rw [hstate]
    exact hipv4
  · rw [hstate]
    exact hipv6
  · rw [hstate]
    obtain ⟨hphase, hslots⟩ := slots_applyRoutes (enableIPv6
      (enableIPv4 { manager with interfaces := table }).state).state F
    refine hipv6.trans (.of_same hphase hslots ?_)
    rw [(frame_applyRoutes _).1]
    rfl

/-! ### Runs -/

namespace Operation

def enables : Operation → Bool
  | .ipv4 (.enable _) => true
  | .ipv6 (.enable _) => true
  | _ => false

def renews : Operation → Bool
  | .start _ => true
  | .reload _ _ => true
  | _ => false

end Operation

/-- The last interfaces to be put in place came with a start, which was made after these
operations. -/
def StartsLast (before : List Operation) (table : InterfaceTable) (operations : List Operation) :
    Prop :=
  ∃ rest, operations = before ++ .start table :: rest ∧ ∀ operation ∈ rest, operation.renews = false

theorem startsLast_append_singleton {before operations : List Operation} {table : InterfaceTable}
    {operation : Operation} :
    StartsLast before table (operations ++ [operation]) ↔
      (operation = .start table ∧ before = operations) ∨
        (operation.renews = false ∧ StartsLast before table operations) := by
  constructor
  · rintro ⟨rest, hsplit, hrest⟩
    obtain rfl | ⟨rest, last, rfl⟩ := List.eq_nil_or_concat rest
    · obtain ⟨hbefore, hlast⟩ := List.append_inj' hsplit rfl
      exact .inl ⟨by simpa using hlast, hbefore.symm⟩
    · rw [List.concat_eq_append, ← List.cons_append, ← List.append_assoc] at hsplit
      obtain ⟨hoperations, hlast⟩ := List.append_inj' hsplit rfl
      rw [List.singleton_inj] at hlast
      refine .inr ⟨?_, rest, hoperations, fun other hother => ?_⟩
      · rw [hlast]
        exact hrest last (by simp)
      · exact hrest other (by simp [hother])
  · rintro (⟨rfl, rfl⟩ | ⟨hsame, rest, rfl, hrest⟩)
    · exact ⟨[], rfl, by simp⟩
    · refine ⟨rest ++ [operation], by simp, fun other hother => ?_⟩
      rcases List.mem_append.mp hother with hmem | hmem
      · exact hrest other hmem
      · rw [List.mem_singleton.mp hmem]
        exact hsame

theorem continues_perform {operation : Operation} (hdirect : operation.enables = false)
    (hsame : operation.renews = false) (manager : Simulated τ) (F : Family) :
    (operation.perform manager).state.interfaces = manager.interfaces ∧
      Channel.Continues (manager.channel F) ((operation.perform manager).state.channel F) := by
  cases operation with
  | start table => cases hsame
  | reload config table => cases hsame
  | stop =>
      refine ⟨rfl, .of_disabled ?_⟩
      cases F with
      | ipv4 => exact Channel.phase_disable manager.ipv4
      | ipv6 => exact Channel.phase_disable manager.ipv6
  | applyRoutes =>
      obtain ⟨hphase, hslots⟩ := slots_applyRoutes manager F
      exact ⟨(frame_applyRoutes manager).1, fun henabled => ⟨hphase ▸ henabled, hslots⟩⟩
  | ipv4 operation =>
      refine ⟨rfl, ?_⟩
      cases F with
      | ipv4 =>
          refine Channel.continues_perform (fun table heq => ?_) manager.ipv4
          rw [heq] at hdirect
          cases hdirect
      | ipv6 => exact fun henabled => ⟨henabled, rfl⟩
  | ipv6 operation =>
      refine ⟨rfl, ?_⟩
      cases F with
      | ipv4 => exact fun henabled => ⟨henabled, rfl⟩
      | ipv6 =>
          refine Channel.continues_perform (fun table heq => ?_) manager.ipv6
          rw [heq] at hdirect
          cases hdirect

theorem agrees_start_iff (hlife : ∀ F, (manager.channel F).Lifecycle) (table : InterfaceTable)
    (henabled : ((start table manager).state.channel F).phase = .enabled) :
    (start table manager).state.interfaces.Agrees F ((start table manager).state.channel F).slots ↔
      ((manager.channel F).phase = .enabled → table.Agrees F (manager.channel F).slots) := by
  have hsettles := settles_start hlife table F
  have hchannel : channel F { manager with interfaces := table } = manager.channel F :=
    channel_interfaces F manager table
  by_cases hheld : (manager.channel F).phase = .enabled
  · obtain ⟨-, hslots, hagrees⟩ := hsettles.of_enabled (by rwa [hchannel])
    rw [hchannel] at hslots hagrees
    rw [hslots, hagrees]
    exact ⟨fun hstart _ => hstart, fun hstart => hstart hheld⟩
  · refine ⟨fun _ hagain => absurd hagain hheld, fun _ => ?_⟩
    exact hsettles.of_not_enabled (by rwa [hchannel]) henabled

theorem agrees_reload (hlife : ∀ F, (manager.channel F).Lifecycle) (config : Config)
    (table : InterfaceTable)
    (henabled : ((reload config table manager).state.channel F).phase = .enabled) :
    (reload config table manager).state.interfaces.Agrees F
      ((reload config table manager).state.channel F).slots := by
  have hstopped : ∀ F, (({ (stop manager).state with config }).channel F).Lifecycle ∧
      (({ (stop manager).state with config }).channel F).phase = .disabled := by
    rintro (_ | _)
    · exact ⟨(hlife .ipv4).disable.1, Channel.phase_disable manager.ipv4⟩
    · exact ⟨(hlife .ipv6).disable.1, Channel.phase_disable manager.ipv6⟩
  rw [state_reload] at henabled ⊢
  refine (agrees_start_iff (fun F => (hstopped F).1) table henabled).mpr fun hagain => ?_
  rw [(hstopped F).2] at hagain
  cases hagain

/-- **When interfaces agree with the slots:** always, unless they came with a start before which the
family was enabled, and had given out other slots than they came with. -/
theorem agrees_run_iff {first : Simulated τ} (hnew : first.New) {operations : List Operation}
    (hdirect : ∀ operation ∈ operations, operation.enables = false) (F : Family) :
    let last := (run operations first).state
    (last.channel F).phase = .enabled →
      (last.interfaces.Agrees F (last.channel F).slots ↔
        ∀ before table, StartsLast before table operations →
          let held := (run before first).state.channel F
          held.phase = .enabled → table.Agrees F held.slots) := by
  induction operations using List.reverseRecOn with
  | nil =>
      intro last henabled
      obtain ⟨faults, sysctl, path, hfresh⟩ := hnew.channel_eq F
      rw [show last = first from rfl, hfresh] at henabled
      cases henabled
  | append_singleton operations operation ih =>
      intro last henabled
      have hlife := Reachable.lifecycle_channel ⟨first, hnew, operations, rfl⟩
      have hlast : last = (operation.perform (run operations first).state).state :=
        (Action.each_append Operation.perform operations [operation] first).2
      simp only [startsLast_append_singleton]
      rw [hlast] at henabled ⊢
      cases hrenews : operation.renews with
      | false =>
          -- nothing that the agreement is about is touched, and no start comes later than before
          obtain ⟨hinterfaces, hcontinues⟩ :=
            continues_perform (hdirect operation (by simp)) hrenews (run operations first).state F
          obtain ⟨hheld, hslots⟩ := hcontinues henabled
          rw [hinterfaces, hslots, ih (fun other hmem => hdirect other (by simp [hmem])) hheld]
          have hnot : ∀ table, operation ≠ .start table := by
            rintro table rfl
            cases hrenews
          simp [hnot]
      | true =>
          cases operation with
          | start table =>
              refine (agrees_start_iff hlife table henabled).trans ?_
              simp
          | reload config table =>
              refine iff_of_true (agrees_reload hlife config table henabled) ?_
              simp
          | stop => cases hrenews
          | applyRoutes => cases hrenews
          | ipv4 operation => cases hrenews
          | ipv6 operation => cases hrenews

def refusedIPv6 : Simulated RecordingSysctl where
  config := {}
  ipv4 := Channel.fresh {} {} none
  ipv6 := Channel.fresh { init := some Errno.invalid } {} none

def retry : List Operation := [.start .basic, .ipv6 (.inject {}), .start .basic]

theorem refusedIPv6_new : refusedIPv6.New :=
  ⟨⟨{}, {}, none, rfl⟩, { init := some Errno.invalid }, {}, none, rfl⟩

theorem retry_reloaded :
    let last := (run (retry ++ [.reload {} .basic]) refusedIPv6).state
    last.ipv4.phase = .enabled ∧ last.interfaces.Agrees .ipv4 last.ipv4.slots ∧
      last.ipv6.phase = .enabled ∧ last.interfaces.Agrees .ipv6 last.ipv6.slots := by
  intro last
  have hdirect : ∀ operation ∈ retry ++ [.reload {} .basic], operation.enables = false := by decide
  have hnone : ∀ before table, ¬ StartsLast before table (retry ++ [.reload {} .basic]) := by
    intro before table hstarts
    simp [startsLast_append_singleton, Operation.renews] at hstarts
  have henabled : last.ipv4.phase = .enabled := by decide +kernel
  have henabled' : last.ipv6.phase = .enabled := by decide +kernel
  exact ⟨henabled, (agrees_run_iff refusedIPv6_new hdirect .ipv4 henabled).mpr
      fun before table hstarts => absurd hstarts (hnone before table),
    henabled', (agrees_run_iff refusedIPv6_new hdirect .ipv6 henabled').mpr
      fun before table hstarts => absurd hstarts (hnone before table)⟩

/-- The first start fails with IPv4 enabled. The second goes through, and leaves IPv4 with two slots
that no interface has. -/
theorem retry_disagrees :
    let last := (run retry refusedIPv6).state
    (start .basic refusedIPv6).answer.isOk = false ∧
      (start .basic (run (retry.take 2) refusedIPv6).state).answer.isOk = true ∧
      last.ipv4.phase = .enabled ∧ last.ipv4.slots.size = 2 ∧
      (∀ iface ∈ last.interfaces.entries, Family.ipv4.slotOf iface = none) ∧
      ¬ last.interfaces.Agrees .ipv4 last.ipv4.slots := by
  intro last
  have hbound : (last.ipv4.slots.get? 0).map Binding.ifindex = some 0 := by decide +kernel
  have hmem : ∃ iface ∈ last.interfaces.entries, iface.ifindex = 0 := by decide +kernel
  have hbare : ∀ iface ∈ last.interfaces.entries, Family.ipv4.slotOf iface = none := by
    decide +kernel
  refine ⟨by decide +kernel, by decide +kernel, by decide +kernel, by decide +kernel, hbare, ?_⟩
  intro hagrees
  obtain ⟨iface, hiface, hifindex⟩ := hmem
  have hrecorded := (hagrees iface hiface 0).mpr (hifindex ▸ hbound)
  rw [hbare iface hiface] at hrecorded
  cases hrecorded

end Manager

end Multicast
