import Multicast.Log.Event

/-!
Actions: steps that read and change a state, log events, and give an answer. What an action does to
a sequence is given by the equations for `pure` and `bind` below.
-/

namespace Multicast

/-- What an action answers, the state it leaves and the events it logs, in order. -/
structure Outcome (σ α : Type) where
  answer : α
  state : σ
  events : List Event

def Action (σ α : Type) : Type := σ → Outcome σ α

namespace Action

variable {σ τ α β : Type}

protected def pure (answer : α) : Action σ α := fun state => ⟨answer, state, []⟩

protected def bind (first : Action σ α) (next : α → Action σ β) : Action σ β := fun state =>
  let one := first state
  let two := next one.answer one.state
  ⟨two.answer, two.state, one.events ++ two.events⟩

instance : Monad (Action σ) where
  pure := Action.pure
  bind := Action.bind

@[simp]
theorem pure_apply (answer : α) (state : σ) :
    (pure answer : Action σ α) state = ⟨answer, state, []⟩ := rfl

theorem bind_apply (first : Action σ α) (next : α → Action σ β) (state : σ) :
    (first >>= next) state =
      ⟨(next (first state).answer (first state).state).answer,
        (next (first state).answer (first state).state).state,
        (first state).events ++ (next (first state).answer (first state).state).events⟩ := rfl

@[simp]
theorem answer_bind (first : Action σ α) (next : α → Action σ β) (state : σ) :
    ((first >>= next) state).answer = (next (first state).answer (first state).state).answer := rfl

@[simp]
theorem state_bind (first : Action σ α) (next : α → Action σ β) (state : σ) :
    ((first >>= next) state).state = (next (first state).answer (first state).state).state := rfl

@[simp]
theorem events_bind (first : Action σ α) (next : α → Action σ β) (state : σ) :
    ((first >>= next) state).events =
      (first state).events ++ (next (first state).answer (first state).state).events := rfl

instance : LawfulMonad (Action σ) := LawfulMonad.mk' (Action σ)
  (fun _ => funext fun _ => by simp [Functor.map, Action.bind, Action.pure])
  (fun _ _ => funext fun _ => by simp [bind_apply])
  (fun _ _ _ => funext fun _ => by simp [bind_apply])

def log (event : Event) : Action σ Unit := fun state => ⟨(), state, [event]⟩

def read (part : σ → α) : Action σ α := fun state => ⟨part state, state, []⟩

def update (change : σ → σ) : Action σ Unit := fun state => ⟨(), change state, []⟩

def call (step : σ → α × σ) : Action σ α := fun state => ⟨(step state).1, (step state).2, []⟩

def on (part : σ → τ) (put : τ → σ → σ) (action : Action τ α) : Action σ α := fun state =>
  let inner := action (part state)
  ⟨inner.answer, put inner.state state, inner.events⟩

def onFst (action : Action σ α) : Action (σ × τ) α :=
  on Prod.fst (fun first pair => (first, pair.2)) action

def onSnd (action : Action τ α) : Action (σ × τ) α :=
  on Prod.snd (fun second pair => (pair.1, second)) action

def within (scope : Scope) (action : Action σ α) : Action σ α := fun state =>
  let inner := action state
  ⟨inner.answer, inner.state, inner.events.map (Event.inside scope)⟩

def each (action : α → Action σ β) : List α → Action σ (List β)
  | [] => pure []
  | x :: rest => do
    let answer ← action x
    let answers ← each action rest
    pure (answer :: answers)

/-! What these actions answer and what state they leave. -/

@[simp]
theorem answer_map (f : α → β) (action : Action σ α) (state : σ) :
    ((f <$> action) state).answer = f (action state).answer := rfl

@[simp]
theorem state_map (f : α → β) (action : Action σ α) (state : σ) :
    ((f <$> action) state).state = (action state).state := rfl

@[simp]
theorem log_apply (event : Event) (state : σ) : log event state = ⟨(), state, [event]⟩ := rfl

@[simp]
theorem read_apply (part : σ → α) (state : σ) : read part state = ⟨part state, state, []⟩ := rfl

@[simp]
theorem update_apply (change : σ → σ) (state : σ) :
    update change state = ⟨(), change state, []⟩ := rfl

@[simp]
theorem call_apply (step : σ → α × σ) (state : σ) :
    call step state = ⟨(step state).1, (step state).2, []⟩ := rfl

@[simp]
theorem answer_on (part : σ → τ) (put : τ → σ → σ) (action : Action τ α) (state : σ) :
    (on part put action state).answer = (action (part state)).answer := rfl

@[simp]
theorem state_on (part : σ → τ) (put : τ → σ → σ) (action : Action τ α) (state : σ) :
    (on part put action state).state = put (action (part state)).state state := rfl

@[simp]
theorem answer_onFst (action : Action σ α) (pair : σ × τ) :
    (onFst action pair).answer = (action pair.1).answer := rfl

@[simp]
theorem state_onFst (action : Action σ α) (pair : σ × τ) :
    (onFst action pair).state = ((action pair.1).state, pair.2) := rfl

@[simp]
theorem answer_onSnd (action : Action τ α) (pair : σ × τ) :
    (onSnd action pair).answer = (action pair.2).answer := rfl

@[simp]
theorem state_onSnd (action : Action τ α) (pair : σ × τ) :
    (onSnd action pair).state = (pair.1, (action pair.2).state) := rfl

@[simp]
theorem answer_within (scope : Scope) (action : Action σ α) (state : σ) :
    (within scope action state).answer = (action state).answer := rfl

@[simp]
theorem state_within (scope : Scope) (action : Action σ α) (state : σ) :
    (within scope action state).state = (action state).state := rfl

@[simp]
theorem each_nil (action : α → Action σ β) (state : σ) :
    each action [] state = ⟨[], state, []⟩ := rfl

@[simp]
theorem answer_each_cons (action : α → Action σ β) (x : α) (rest : List α) (state : σ) :
    (each action (x :: rest) state).answer =
      (action x state).answer :: (each action rest (action x state).state).answer := rfl

@[simp]
theorem state_each_cons (action : α → Action σ β) (x : α) (rest : List α) (state : σ) :
    (each action (x :: rest) state).state =
      (each action rest (action x state).state).state := rfl

theorem each_append (action : α → Action σ β) (xs ys : List α) (state : σ) :
    (each action (xs ++ ys) state).answer =
        (each action xs state).answer ++ (each action ys (each action xs state).state).answer ∧
      (each action (xs ++ ys) state).state =
        (each action ys (each action xs state).state).state := by
  induction xs generalizing state with
  | nil => exact ⟨rfl, rfl⟩
  | cons x rest ih =>
      simp only [List.cons_append, answer_each_cons, state_each_cons, ih, and_self]

/-- What every step keeps, a run of steps keeps. -/
theorem state_each_of_forall (keeps : σ → Prop) {action : α → Action σ β} {xs : List α}
    (hstep : ∀ x ∈ xs, ∀ state, keeps state → keeps (action x state).state) {state : σ}
    (hstate : keeps state) : keeps (each action xs state).state := by
  induction xs generalizing state with
  | nil => exact hstate
  | cons x rest ih =>
      rw [state_each_cons]
      exact ih (fun y hy => hstep y (List.mem_cons_of_mem x hy))
        (hstep x List.mem_cons_self state hstate)

end Action

end Multicast
