import Multicast.Proofs.Registry.Transcript

/-!
# Wildcards that are installed

A route for any sender that is added becomes a template, and no call is made for it. A flow is not
looked at like that: if it comes from the unspecified address, what is derived for it is a route for
any sender again, in the kernel and among the instances. Every other route that is installed is for
one sender.
-/

namespace Multicast

variable {F : Family} {σ : Type} [RouteSocket F σ]

theorem Flow.isWildcard_toRoute (flow : Flow F) (outbound : F.Outbound) :
    (flow.toRoute outbound).isWildcard = true ↔ flow.sender = F.unspecified := by
  rw [Route.isWildcard, decide_eq_true_iff]
  rfl

namespace Registry

variable {registry : Registry F} {traced : Traced F σ}

def Derives (registry : Registry F) (flow : Flow F) (route : Route F) : Prop :=
  ∃ template, registry.template? flow.group flow.inbound = some template ∧
    route = flow.toRoute template.outbound

theorem Derives.isWildcard_iff {flow : Flow F} {route : Route F}
    (hderives : registry.Derives flow route) :
    route.isWildcard = true ↔ flow.sender = F.unspecified := by
  obtain ⟨template, -, rfl⟩ := hderives
  exact flow.isWildcard_toRoute template.outbound

/-- There are two ways for a route to the kernel: it is added, and for one sender, or it is derived
for a flow. -/
theorem add_mem_calls_iff {operation : Operation F} {route : Route F} :
    .add route ∈ operation.calls registry ↔
      (operation = .add route ∧ route.isWildcard = false) ∨
        ∃ flow, operation = .resolve flow ∧ registry.Derives flow route := by
  cases operation with
  | add added =>
      by_cases hwild : added.isWildcard = true
      · simp only [Operation.calls, hwild, if_true, List.not_mem_nil, false_iff]
        rintro (⟨hsame, hconcrete⟩ | ⟨flow, hflow, -⟩)
        · cases hsame
          simp [hwild] at hconcrete
        · cases hflow
      · simp only [Operation.calls, hwild, Bool.false_eq_true, if_false, List.mem_singleton]
        grind
  | remove removed =>
      have hdeletions : .add route ∉ Operation.calls registry (.remove removed) := by
        simp only [Operation.calls]
        split <;> simp
      simp [hdeletions]
  | resolve flow =>
      cases htemplate : registry.template? flow.group flow.inbound with
      | none => simp [Operation.calls, Derives, htemplate]
      | some template => simp [Operation.calls, Derives, htemplate]
  | clear => simp [Operation.calls]

theorem wildcard_mem_calls_iff {operation : Operation F} {route : Route F} :
    (.add route ∈ operation.calls registry ∧ route.isWildcard = true) ↔
      ∃ flow, operation = .resolve flow ∧ flow.sender = F.unspecified ∧
        registry.Derives flow route := by
  rw [add_mem_calls_iff]
  constructor
  · rintro ⟨⟨-, hconcrete⟩ | ⟨flow, hflow, hderives⟩, hwild⟩
    · rw [hconcrete] at hwild
      cases hwild
    · exact ⟨flow, hflow, hderives.isWildcard_iff.mp hwild, hderives⟩
  · rintro ⟨flow, hflow, hsender, hderives⟩
    exact ⟨.inr ⟨flow, hflow, hderives⟩, hderives.isWildcard_iff.mpr hsender⟩

theorem mem_instances_effect {operation : Operation F} {known : Route F}
    (hmem : known ∈ (operation.effect registry).instances) :
    known ∈ registry.instances ∨ .add known ∈ operation.calls registry := by
  cases operation with
  | add route =>
      have hsame : (Operation.effect registry (.add route)).instances = registry.instances := by
        simp only [Operation.effect]
        split <;> rfl
      exact .inl (hsame ▸ hmem)
  | remove route =>
      simp only [Operation.effect] at hmem
      split at hmem
      · exact .inl ((List.mem_filter.mp hmem).1)
      · exact .inl hmem
  | resolve flow =>
      cases htemplate : registry.template? flow.group flow.inbound with
      | none => exact .inl (by simpa [Operation.effect, htemplate] using hmem)
      | some template =>
          simp only [Operation.effect, htemplate, track] at hmem
          split at hmem
          · exact .inl hmem
          · refine (List.mem_append.mp hmem).imp_right fun hnew => ?_
            rw [List.mem_singleton.mp hnew]
            simp [Operation.calls, htemplate]
  | clear => simp [Operation.effect, empty] at hmem

def Installed (pair : Registry F × Traced F σ) : Prop :=
  ∀ known ∈ pair.1.instances, .add known ∈ pair.2.calls

theorem Installed.perform (hinstalled : Installed (registry, traced)) (operation : Operation F) :
    Installed (operation.perform (registry, traced)).state := by
  intro known hmem
  rw [calls_perform]
  rw [state_perform] at hmem
  refine List.mem_append.mpr ?_
  exact (mem_instances_effect hmem).imp_left (hinstalled known)

theorem installed_run (operations : List (Operation F)) (socket : σ) :
    Installed (run operations (empty, (⟨socket, []⟩ : Traced F σ))).state := by
  have hempty : Installed (empty, (⟨socket, []⟩ : Traced F σ)) := List.forall_mem_nil _
  exact Action.state_each_of_forall Installed
    (fun operation _ pair hinstalled => Installed.perform hinstalled operation) hempty

theorem wildcard_mem_calls_run_iff (operations : List (Operation F)) (socket : σ)
    (route : Route F) :
    (.add route ∈ (run operations (empty, (⟨socket, []⟩ : Traced F σ))).state.2.calls ∧
        route.isWildcard = true) ↔
      ∃ before flow rest, operations = before ++ .resolve flow :: rest ∧
        flow.sender = F.unspecified ∧
        (run before (empty, (⟨socket, []⟩ : Traced F σ))).state.1.Derives flow route := by
  rw [mem_calls_run_iff]
  constructor
  · rintro ⟨hnone | ⟨before, operation, rest, hsplit, hcall⟩, hwild⟩
    · cases hnone
    · obtain ⟨flow, rfl, hsender, hderives⟩ := wildcard_mem_calls_iff.mp ⟨hcall, hwild⟩
      exact ⟨before, flow, rest, hsplit, hsender, hderives⟩
  · rintro ⟨before, flow, rest, hsplit, hsender, hderives⟩
    obtain ⟨hcall, hwild⟩ := wildcard_mem_calls_iff.mpr ⟨flow, rfl, hsender, hderives⟩
    exact ⟨.inr ⟨before, .resolve flow, rest, hsplit, hcall⟩, hwild⟩

/-- **Only flows from the unspecified address install routes for any sender,** and they do if there
is a template for them. -/
theorem wildcard_installed_iff (operations : List (Operation F)) (socket : σ) :
    let reached (part : List (Operation F)) := (run part (empty, (⟨socket, []⟩ : Traced F σ))).state
    let last := reached operations
    (∀ route, (.add route ∈ last.2.calls ∧ route.isWildcard = true) ↔
      ∃ before flow rest, operations = before ++ .resolve flow :: rest ∧
        flow.sender = F.unspecified ∧ (reached before).1.Derives flow route) ∧
      (((∀ route, .add route ∈ last.2.calls → route.isWildcard = false) ∧
          ∀ known ∈ last.1.instances, known.isWildcard = false) ↔
        ∀ before flow rest, operations = before ++ .resolve flow :: rest →
          flow.sender = F.unspecified →
            (reached before).1.template? flow.group flow.inbound = none) := by
  intro reached last
  have hinstalled : ∀ route, (.add route ∈ last.2.calls ∧ route.isWildcard = true) ↔
      ∃ before flow rest, operations = before ++ .resolve flow :: rest ∧
        flow.sender = F.unspecified ∧ (reached before).1.Derives flow route :=
    wildcard_mem_calls_run_iff operations socket
  refine ⟨hinstalled, ?_⟩
  constructor
  · rintro ⟨hconcrete, -⟩ before flow rest hsplit hsender
    cases htemplate : (reached before).1.template? flow.group flow.inbound with
    | none => rfl
    | some template =>
        obtain ⟨hcall, hwild⟩ := (hinstalled (flow.toRoute template.outbound)).mpr
          ⟨before, flow, rest, hsplit, hsender, template, htemplate, rfl⟩
        rw [hconcrete _ hcall] at hwild
        cases hwild
  · intro hnone
    have hconcrete : ∀ route, .add route ∈ last.2.calls → route.isWildcard = false := by
      intro route hcall
      cases hwild : route.isWildcard with
      | false => rfl
      | true =>
          obtain ⟨before, flow, rest, hsplit, hsender, template, htemplate, -⟩ :=
            (hinstalled route).mp ⟨hcall, hwild⟩
          rw [hnone before flow rest hsplit hsender] at htemplate
          cases htemplate
    exact ⟨hconcrete, fun known hmem =>
      hconcrete known (installed_run operations socket known hmem)⟩

def anySender : Route .ipv4 := .wildcard ⟨239, 1, 1, 1⟩ 0 (Family.Outbound.set .empty 1 1)

/-- A flow to the group, from the unspecified address. -/
def senderless : Flow .ipv4 := ⟨IPv4.unspecified, ⟨239, 1, 1, 1⟩, 0⟩

theorem senderless_installed :
    let last := (run [.add anySender, .resolve senderless]
      (empty, ({} : ScriptedSocket .ipv4))).state
    ∃ known ∈ last.1.instances, .add known ∈ last.2.calls ∧ known.isWildcard = true := by
  decide

end Registry

end Multicast
