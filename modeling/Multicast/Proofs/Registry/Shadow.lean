import Mathlib.Data.List.Induction
import Multicast.Proofs.Action
import Multicast.Proofs.Registry.Coherence
import Multicast.Proofs.Registry.Transcript

/-!
# Templates in the shadow of another

A template that is added for a group and slot that have one is never looked up: the first is found
instead, and goes no sooner than all of them go. So the templates are a map from group and slot to
where traffic goes, in which the first entry counts, and a run does the same without the additions
that come too late.
-/

namespace Multicast

open Multicast.Action

variable {F : Family} {σ : Type}

/-! ### The first route for each group and slot -/

/-- The routes without those for a group and slot that an earlier one is for. -/
def Route.firsts (routes : List (Route F)) : List (Route F) :=
  routes.eraseDupsBy fun route first => route.isFor first.group first.inbound

namespace Route

theorem firsts_nil : firsts ([] : List (Route F)) = [] := List.eraseDupsBy_nil

theorem firsts_cons (route : Route F) (rest : List (Route F)) :
    firsts (route :: rest) =
      route :: firsts (rest.filter fun other => !other.isFor route.group route.inbound) := by
  unfold firsts
  rw [List.eraseDupsBy_cons]
  simp only [Bool.decide_eq_false]

theorem isFor_of_isFor {route other : Route F} {group : F.Addr} {inbound : SlotIndex}
    (hsame : other.isFor route.group route.inbound = true) :
    other.isFor group inbound = route.isFor group inbound := by
  obtain ⟨hgroup, hinbound⟩ := isFor_iff.mp hsame
  rw [isFor, isFor, hgroup, hinbound]

theorem isFor_comm (route other : Route F) :
    route.isFor other.group other.inbound = other.isFor route.group route.inbound := by
  rw [Bool.eq_iff_iff, isFor_iff, isFor_iff, eq_comm, @eq_comm _ route.inbound]

theorem any_isFor_filter {route : Route F} {group : F.Addr} {inbound : SlotIndex}
    (hother : route.isFor group inbound = false) (routes : List (Route F)) :
    (routes.filter fun other => !other.isFor group inbound).any
        (isFor route.group route.inbound) =
      routes.any (isFor route.group route.inbound) := by
  rw [List.any_filter]
  refine List.any_congr rfl fun other => ?_
  cases hsame : other.isFor route.group route.inbound with
  | true =>
      rw [isFor_of_isFor hsame, hother]
      rfl
  | false => rw [Bool.and_false]

theorem firsts_append_singleton (routes : List (Route F)) (route : Route F) :
    firsts (routes ++ [route]) =
      if routes.any (isFor route.group route.inbound) then firsts routes
      else firsts routes ++ [route] := by
  induction hlength : routes.length using Nat.strongRecOn generalizing routes with
  | ind length ih =>
      cases routes with
      | nil =>
          rw [List.nil_append, firsts_cons, List.filter_nil, firsts_nil]
          rfl
      | cons first rest =>
          set later := rest.filter fun other => !other.isFor first.group first.inbound with hlater
          have hshorter : later.length < length := by
            have hle : later.length ≤ rest.length := List.length_filter_le _ _
            rw [List.length_cons] at hlength
            omega
          rw [List.cons_append, firsts_cons, firsts_cons, List.filter_append, ← hlater,
            List.any_cons]
          cases hsame : route.isFor first.group first.inbound with
          | true =>
              have hback := (isFor_comm first route).trans hsame
              simp [hsame, hback]
          | false =>
              have hback := (isFor_comm first route).trans hsame
              have hany : later.any (isFor route.group route.inbound) =
                  rest.any (isFor route.group route.inbound) := by
                rw [hlater, any_isFor_filter hsame]
              have hstep := ih later.length hshorter later rfl
              rw [hany] at hstep
              rw [hback, Bool.false_or, List.filter_cons_of_pos (by simp [hsame]), List.filter_nil,
                hstep]
              split <;> rfl

theorem find?_firsts (group : F.Addr) (inbound : SlotIndex) (routes : List (Route F)) :
    (firsts routes).find? (isFor group inbound) = routes.find? (isFor group inbound) := by
  induction routes using List.reverseRecOn with
  | nil => rw [firsts_nil]
  | append_singleton rest route ih =>
      rw [firsts_append_singleton]
      split
      case isFalse => rw [List.find?_append, List.find?_append, ih]
      case isTrue hany =>
        rw [ih, List.find?_append]
        cases hroute : route.isFor group inbound with
        | false => simp [hroute]
        | true =>
            -- one before it is for the same, and so is found first
            obtain ⟨earlier, hmem, hsame⟩ := List.any_eq_true.mp hany
            have hearlier : earlier.isFor group inbound = true :=
              (isFor_of_isFor hsame).trans hroute
            have hfound : (rest.find? (isFor group inbound)).isSome = true :=
              List.find?_isSome.mpr ⟨earlier, hmem, hearlier⟩
            rw [Option.or_of_isSome hfound]

theorem firsts_filter (group : F.Addr) (inbound : SlotIndex) (routes : List (Route F)) :
    firsts (routes.filter fun route => !route.isFor group inbound) =
      (firsts routes).filter fun route => !route.isFor group inbound := by
  induction routes using List.reverseRecOn with
  | nil => rw [List.filter_nil, firsts_nil, List.filter_nil]
  | append_singleton rest route ih =>
      rw [firsts_append_singleton, List.filter_append]
      cases hroute : route.isFor group inbound with
      | true =>
          rw [List.filter_cons_of_neg (by simp [hroute]), List.filter_nil, List.append_nil, ih]
          split
          · rfl
          · simp [hroute]
      | false =>
          rw [List.filter_cons_of_pos (by simp [hroute]), List.filter_nil, firsts_append_singleton,
            any_isFor_filter hroute, ih]
          split
          · rfl
          · simp [hroute]

end Route

namespace Registry

/-! ### Operations on the firsts -/

def firsts (registry : Registry F) : Registry F :=
  { registry with templates := Route.firsts registry.templates }

theorem template?_firsts (registry : Registry F) (group : F.Addr) (inbound : SlotIndex) :
    registry.firsts.template? group inbound = registry.template? group inbound :=
  Route.find?_firsts group inbound registry.templates

theorem firsts_track (route : Route F) (registry : Registry F) :
    registry.firsts.track route = (registry.track route).firsts := by
  by_cases hknows : registry.knows route = true
  · have hfirsts : registry.firsts.knows route = true := hknows
    rw [track, track, if_pos hknows, if_pos hfirsts]
  · have hfirsts : ¬ registry.firsts.knows route = true := hknows
    rw [track, track, if_neg hknows, if_neg hfirsts]
    rfl

theorem firsts_forget (group : F.Addr) (inbound : SlotIndex) (registry : Registry F) :
    registry.firsts.forget group inbound = (registry.forget group inbound).firsts := by
  have hfilter := Route.firsts_filter group inbound registry.templates
  simp only [forget, firsts, hfilter]

theorem firsts_addTemplate (route : Route F) (registry : Registry F) :
    (registry.addTemplate route).firsts =
      if (registry.template? route.group route.inbound).isSome then registry.firsts
      else registry.firsts.addTemplate route := by
  have happend := Route.firsts_append_singleton registry.templates route
  rw [firsts, addTemplate]
  dsimp only
  rw [happend, template?, List.isSome_find?]
  split <;> rfl

def Operation.isShadowed (registry : Registry F) : Operation F → Bool
  | add route =>
    route.isWildcard && (registry.template? route.group route.inbound).isSome
  | _ => false

section Commutes

theorem commutes_lists {step : Registry F → Registry F}
    (hstep : ∀ registry, step registry.firsts = (step registry).firsts) :
    Commutes (Prod.map firsts (id : σ → σ)) (Action.onFst (Action.update step)) :=
  .on (fun _ => rfl) (fun _ _ => rfl) (.update hstep)

theorem commutes_socket {α : Type} (action : Action σ α) :
    Commutes (Prod.map (firsts (F := F)) id) (Action.onSnd action) :=
  .on (fun _ => rfl) (fun _ _ => rfl) (commutes_id action)

variable [RouteSocket F σ]

theorem commutes_resolve (flow : Flow F) :
    Commutes (Prod.map firsts (id : σ → σ)) (resolve flow) := by
  refine .bind (.read fun pair => template?_firsts pair.1 _ _) fun template => ?_
  cases template with
  | none => exact .bind (.log _) fun _ => .pure _
  | some template => exact .bind (commutes_lists (firsts_track _)) fun _ => commutes_socket _

theorem commutes_dropTemplates (group : F.Addr) (inbound : SlotIndex) :
    Commutes (Prod.map firsts (id : σ → σ)) (dropTemplates group inbound) := by
  rintro ⟨registry, socket⟩
  let drop : Action (Registry F × σ) Unit := do
    let _ ← Action.onSnd (Action.each Route.uninstall (registry.instancesFor group inbound))
    Action.onFst (Action.update (forget group inbound))
  have hdrop : Commutes (Prod.map firsts id) drop :=
    .bind (commutes_socket _) fun _ => commutes_lists (firsts_forget group inbound)
  have heq : ∀ lists : Registry F, lists.instances = registry.instances →
      dropTemplates group inbound (lists, socket) =
        (if (lists.template? group inbound).isSome then drop else pure ()) (lists, socket) := by
    intro lists hinstances
    have hsame : lists.instancesFor group inbound = registry.instancesFor group inbound := by
      rw [instancesFor, instancesFor, hinstances]
    rw [dropTemplates, bind_apply, read_apply, hsame]
    rfl
  rw [Prod.map_apply, id_eq, heq registry.firsts rfl, heq registry rfl, template?_firsts]
  split
  · exact hdrop (registry, socket)
  · rfl

theorem commutes_remove (route : Route F) :
    Commutes (Prod.map firsts (id : σ → σ)) (remove route) := by
  unfold remove
  by_cases hwild : route.isWildcard = true
  · rw [if_pos hwild]
    exact .bind (commutes_dropTemplates _ _) fun _ => commutes_socket _
  · rw [if_neg hwild]
    exact commutes_socket _

/-- The additions of templates that are not shadowed do the same to the firsts, and so does every
other operation. -/
theorem perform_firsts {operation : Operation F} {registry : Registry F}
    (hlit : operation.isShadowed registry = false) (socket : σ) :
    (operation.perform (registry.firsts, socket)).answer =
        (operation.perform (registry, socket)).answer ∧
      (operation.perform (registry.firsts, socket)).state =
        Prod.map firsts id (operation.perform (registry, socket)).state := by
  have hcommutes : ∀ action : Action (Registry F × σ) (Except RoutingError Unit),
      Commutes (Prod.map firsts id) action →
        (action (registry.firsts, socket)).answer = (action (registry, socket)).answer ∧
          (action (registry.firsts, socket)).state =
            Prod.map firsts id (action (registry, socket)).state :=
    fun action haction => ⟨haction.answer (registry, socket), haction.state (registry, socket)⟩
  cases operation with
  | resolve flow => exact hcommutes _ (commutes_resolve flow)
  | remove route => exact hcommutes _ (commutes_remove route)
  | clear => exact hcommutes _ (.bind (commutes_lists fun _ => rfl) fun _ => .pure _)
  | add route =>
      by_cases hwild : route.isWildcard = true
      · rw [Operation.isShadowed, hwild, Bool.true_and] at hlit
        have hfirsts := firsts_addTemplate route registry
        rw [hlit, if_neg Bool.false_ne_true] at hfirsts
        simp [Operation.perform, add, hwild, hfirsts]
      · refine hcommutes _ ?_
        rw [Operation.perform, add, if_neg hwild]
        exact commutes_socket _

theorem perform_of_isShadowed {operation : Operation F} {registry : Registry F}
    (hshadowed : operation.isShadowed registry = true) (socket : σ) :
    Prod.map firsts id (operation.perform (registry, socket)).state =
      (registry.firsts, socket) := by
  cases operation with
  | add route =>
      obtain ⟨hwild, hsome⟩ := Bool.and_eq_true_iff.mp hshadowed
      have hfirsts := firsts_addTemplate route registry
      rw [if_pos hsome] at hfirsts
      simp [Operation.perform, add, hwild, hfirsts]
  | remove route => cases hshadowed
  | resolve flow => cases hshadowed
  | clear => cases hshadowed

end Commutes

/-! ### Runs -/

structure Step (F : Family) where
  before : Registry F
  operation : Operation F
  answer : Except RoutingError Unit

def Step.isShadowed (step : Step F) : Bool := step.operation.isShadowed step.before

variable [RouteSocket F σ]

def history (operations : List (Operation F)) : Action (Registry F × σ) (List (Step F)) :=
  Action.each
    (fun operation => do
      let before ← Action.read Prod.fst
      let answer ← operation.perform
      pure ⟨before, operation, answer⟩)
    operations

theorem history_eq (operations : List (Operation F)) (pair : Registry F × σ) :
    (history operations pair).answer.map Step.operation = operations ∧
      (history operations pair).answer.map Step.answer = (run operations pair).answer ∧
      (history operations pair).state = (run operations pair).state := by
  induction operations generalizing pair with
  | nil => exact ⟨rfl, rfl, rfl⟩
  | cons operation rest ih =>
      obtain ⟨hoperations, hanswers, hstate⟩ := ih (operation.perform pair).state
      exact ⟨congrArg (List.cons operation) hoperations,
        congrArg (List.cons (operation.perform pair).answer) hanswers, hstate⟩

theorem run_firsts (operations : List (Operation F)) (registry : Registry F) (socket : σ) :
    let kept := (history operations (registry, socket)).answer.filter fun step => !step.isShadowed
    let shortened := run (kept.map Step.operation) (registry.firsts, socket)
    shortened.answer = kept.map Step.answer ∧
      shortened.state = Prod.map firsts id (history operations (registry, socket)).state := by
  induction operations generalizing registry socket with
  | nil => exact ⟨rfl, rfl⟩
  | cons operation rest ih =>
      obtain ⟨⟨answer, ⟨after, socket'⟩, events⟩, hperform⟩ :
          ∃ outcome, operation.perform (registry, socket) = outcome := ⟨_, rfl⟩
      have hhistory : (history (operation :: rest) (registry, socket)).answer =
            ⟨registry, operation, answer⟩ :: (history rest (after, socket')).answer ∧
          (history (operation :: rest) (registry, socket)).state =
            (history rest (after, socket')).state := by
        simp [history, hperform]
      rw [hhistory.1, hhistory.2]
      obtain ⟨hanswers, hstate⟩ := ih after socket'
      -- a shadowed operation is left out of the shorter run, which stays where it is
      cases hshadowed : operation.isShadowed registry with
      | true =>
          have hsame := perform_of_isShadowed hshadowed socket
          rw [hperform, Prod.map_apply, id_eq, Prod.mk.injEq] at hsame
          rw [List.filter_cons_of_neg (by simp [Step.isShadowed, hshadowed]), ← hsame.1, ← hsame.2]
          exact ⟨hanswers, hstate⟩
      | false =>
          obtain ⟨hanswer, hafter⟩ := perform_firsts hshadowed socket
          rw [hperform] at hanswer hafter
          rw [List.filter_cons_of_pos (by simp [Step.isShadowed, hshadowed])]
          have hrun : ∀ others : List (Operation F),
              (run (operation :: others) (registry.firsts, socket)).answer =
                  answer :: (run others (after.firsts, socket')).answer ∧
                (run (operation :: others) (registry.firsts, socket)).state =
                  (run others (after.firsts, socket')).state := by
            intro others
            rw [run, answer_each_cons, state_each_cons, hanswer, hafter]
            exact ⟨rfl, rfl⟩
          exact ⟨(hrun _).1.trans (congrArg (List.cons answer) hanswers), (hrun _).2.trans hstate⟩

/-- **A shadowed template does nothing:** without the additions of templates that are never looked
up, a run answers, calls and derives the same, and keeps the first template for each group and slot.
-/
theorem run_without_shadowed (operations : List (Operation F)) (socket : σ) :
    let start : Registry F × Traced F σ := (empty, ⟨socket, []⟩)
    let whole := run operations start
    let kept := (history operations start).answer.filter fun step => !step.isShadowed
    let shortened := run (kept.map Step.operation) start
    shortened.answer = kept.map Step.answer ∧
      shortened.state.2.calls = whole.state.2.calls ∧
      shortened.state.2.socket = whole.state.2.socket ∧
      shortened.state.1.instances = whole.state.1.instances ∧
      shortened.state.1.templates =
        whole.state.1.templates.eraseDupsBy fun route first =>
          route.isFor first.group first.inbound := by
  intro start whole kept shortened
  obtain ⟨hanswers, hstate⟩ :=
    run_firsts operations (empty : Registry F) (⟨socket, []⟩ : Traced F σ)
  have hwhole : (history operations start).state = whole.state :=
    (history_eq operations start).2.2
  have hshortened : shortened.state = Prod.map firsts id whole.state := by
    rw [← hwhole]
    exact hstate
  rw [hshortened]
  exact ⟨hanswers, rfl, rfl, rfl, rfl⟩

end Registry

end Multicast
