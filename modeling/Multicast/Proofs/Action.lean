import Multicast.Action

/-!
# Actions on states and on views of them

An action projects to another along a view of its states when the other does on the view what it
does itself: the same answer, the same events, and the view of the state that it leaves. It commutes
with a change of its state when it projects to itself along the change. Each way of putting actions
together keeps this, so a program projects to another if its smallest steps do.
-/

namespace Multicast.Action

variable {σ σ' τ τ' α β : Type}

/-- On the view of a state the plain action does what the detailed one does on the state. -/
def Projects (view : σ → σ') (detailed : Action σ α) (plain : Action σ' α) : Prop :=
  ∀ state, plain (view state) =
    ⟨(detailed state).answer, view (detailed state).state, (detailed state).events⟩

namespace Projects

variable {view : σ → σ'} {detailed : Action σ α} {plain : Action σ' α}

protected theorem pure (answer : α) :
    Projects view (pure answer : Action σ α) (pure answer : Action σ' α) := fun _ => rfl

protected theorem bind {next : α → Action σ β} {next' : α → Action σ' β}
    (hfirst : Projects view detailed plain)
    (hnext : ∀ answer, Projects view (next answer) (next' answer)) :
    Projects view (detailed >>= next) (plain >>= next') := by
  intro state
  rw [bind_apply, bind_apply, hfirst state, hnext _ _]

protected theorem log (event : Event) : Projects view (Action.log event) (Action.log event) :=
  fun _ => rfl

protected theorem read {part : σ → α} {part' : σ' → α}
    (hpart : ∀ state, part' (view state) = part state) :
    Projects view (Action.read part) (Action.read part') := by
  intro state
  rw [read_apply, read_apply, hpart]

protected theorem update {step : σ → σ} {step' : σ' → σ'}
    (hstep : ∀ state, step' (view state) = view (step state)) :
    Projects view (Action.update step) (Action.update step') := by
  intro state
  rw [update_apply, update_apply, hstep]

protected theorem on {part : σ → τ} {put : τ → σ → σ} {part' : σ' → τ'} {put' : τ' → σ' → σ'}
    {inner : τ → τ'} {detailed : Action τ α} {plain : Action τ' α}
    (hpart : ∀ state, part' (view state) = inner (part state))
    (hput : ∀ after state, put' (inner after) (view state) = view (put after state))
    (hprojects : Projects inner detailed plain) :
    Projects view (Action.on part put detailed) (Action.on part' put' plain) := by
  intro state
  simp only [Action.on, hpart, hprojects (part state), hput]

protected theorem within (scope : Scope) (hprojects : Projects view detailed plain) :
    Projects view (Action.within scope detailed) (Action.within scope plain) := by
  intro state
  simp only [Action.within, hprojects state]

protected theorem each {step : α → Action σ β} {step' : α → Action σ' β}
    (hstep : ∀ x, Projects view (step x) (step' x)) (xs : List α) :
    Projects view (Action.each step xs) (Action.each step' xs) := by
  induction xs with
  | nil => exact .pure []
  | cons x rest ih => exact (hstep x).bind fun _ => ih.bind fun _ => .pure _

end Projects

theorem projects_id (action : Action σ α) : Projects id action action := fun _ => rfl

theorem projects_onFst (inner : τ → τ') (action : Action σ α) :
    Projects (Prod.map id inner) (onFst action) (onFst action) := fun _ => rfl

theorem projects_onSnd {inner : τ → τ'} {detailed : Action τ α} {plain : Action τ' α}
    (hprojects : Projects inner detailed plain) :
    Projects (Prod.map (id : σ → σ) inner) (onSnd detailed) (onSnd plain) :=
  .on (fun _ => rfl) (fun _ _ => rfl) hprojects

/-- The action does on a changed state what it does on the state. -/
def Commutes (change : σ → σ) (action : Action σ α) : Prop :=
  ∀ state, action (change state) =
    ⟨(action state).answer, change (action state).state, (action state).events⟩

namespace Commutes

variable {change : σ → σ} {action : Action σ α}

theorem answer (hcommutes : Commutes change action) (state : σ) :
    (action (change state)).answer = (action state).answer := by
  rw [hcommutes state]

theorem state (hcommutes : Commutes change action) (before : σ) :
    (action (change before)).state = change (action before).state := by
  rw [hcommutes before]

protected theorem pure (answer : α) : Commutes change (pure answer : Action σ α) :=
  Projects.pure answer

protected theorem bind {next : α → Action σ β} (hfirst : Commutes change action)
    (hnext : ∀ answer, Commutes change (next answer)) : Commutes change (action >>= next) :=
  Projects.bind hfirst hnext

protected theorem log (event : Event) : Commutes change (Action.log event) := Projects.log event

protected theorem read {part : σ → α} (hpart : ∀ state, part (change state) = part state) :
    Commutes change (Action.read part) :=
  Projects.read hpart

protected theorem update {step : σ → σ}
    (hstep : ∀ state, step (change state) = change (step state)) :
    Commutes change (Action.update step) :=
  Projects.update hstep

protected theorem on {part : σ → τ} {put : τ → σ → σ} {inner : τ → τ} {action : Action τ α}
    (hpart : ∀ state, part (change state) = inner (part state))
    (hput : ∀ after state, put (inner after) (change state) = change (put after state))
    (hcommutes : Commutes inner action) : Commutes change (Action.on part put action) :=
  Projects.on hpart hput hcommutes

end Commutes

theorem commutes_id (action : Action σ α) : Commutes id action := fun _ => rfl

end Multicast.Action
