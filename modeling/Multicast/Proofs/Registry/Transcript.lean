import Multicast.Proofs.Registry.Operation

/-!
# The calls of a run

A socket that keeps the calls made to it shows what a registry asks of it. Each operation of a run
makes the calls that follow from the lists before it, whatever the socket answers.
-/

namespace Multicast

variable {F : Family} {σ : Type}

structure Traced (F : Family) (σ : Type) where
  socket : σ
  calls : List (RouteCall F) := []

variable [RouteSocket F σ]

namespace Traced

instance : RouteSocket F (Traced F σ) where
  addRoute route traced :=
    let answered := RouteSocket.addRoute route traced.socket
    (answered.1, ⟨answered.2, traced.calls ++ [.add route]⟩)
  delRoute route traced :=
    let answered := RouteSocket.delRoute route traced.socket
    (answered.1, ⟨answered.2, traced.calls ++ [.del route]⟩)

theorem calls_apply (call : RouteCall F) (traced : Traced F σ) :
    (call.apply traced).calls = traced.calls ++ [call] := by
  cases call <;> rfl

theorem calls_foldl_apply (calls : List (RouteCall F)) (traced : Traced F σ) :
    (calls.foldl RouteCall.apply traced).calls = traced.calls ++ calls := by
  induction calls generalizing traced with
  | nil => simp
  | cons call rest ih =>
      rw [List.foldl_cons, ih, calls_apply, List.append_assoc, List.singleton_append]

theorem socket_foldl_apply (calls : List (RouteCall F)) (traced : Traced F σ) :
    (calls.foldl RouteCall.apply traced).socket = calls.foldl RouteCall.apply traced.socket := by
  induction calls generalizing traced with
  | nil => rfl
  | cons call rest ih =>
      rw [List.foldl_cons, List.foldl_cons, ih]
      cases call <;> rfl

end Traced

namespace Registry

variable {registry : Registry F} {traced : Traced F σ}

theorem calls_perform (operation : Operation F) (registry : Registry F) (traced : Traced F σ) :
    (operation.perform (registry, traced)).state.2.calls =
      traced.calls ++ operation.calls registry := by
  rw [state_perform, Traced.calls_foldl_apply]

/-- A call of a run is made by one of its operations, on the lists that those before it left. -/
theorem mem_calls_run_iff {operations : List (Operation F)} {call : RouteCall F} :
    call ∈ (run operations (registry, traced)).state.2.calls ↔
      call ∈ traced.calls ∨ ∃ before operation rest, operations = before ++ operation :: rest ∧
        call ∈ operation.calls (run before (registry, traced)).state.1 := by
  induction operations generalizing registry traced with
  | nil => simp [run]
  | cons first rest ih =>
      have hrun : ∀ others, (run (first :: others) (registry, traced)).state =
          (run others (first.perform (registry, traced)).state).state := fun _ => rfl
      rw [hrun, ih, calls_perform, List.mem_append, or_assoc]
      refine or_congr_right ⟨?_, ?_⟩
      · rintro (hfirst | ⟨before, operation, others, rfl, hcall⟩)
        · exact ⟨[], first, rest, rfl, hfirst⟩
        · exact ⟨first :: before, operation, others, rfl, hcall⟩
      · rintro ⟨before, operation, others, hsplit, hcall⟩
        cases before with
        | nil =>
            cases hsplit
            exact .inl hcall
        | cons head before =>
            cases hsplit
            exact .inr ⟨before, operation, others, rfl, hcall⟩

end Registry

end Multicast
