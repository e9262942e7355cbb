import Multicast.Action

/-!
# Failures and the events that report them

A state may count the failures of what it stands for. An action that adds failures reports each by a
warning or an error, or leaves it to what follows: then the failure is due, and the answer tells how
many are. What follows owes them, so failures are accounted for over any actions put together.
-/

namespace Multicast

def Event.isAlarm (event : Event) : Bool :=
  match event.level with
  | .warn | .error => true
  | .trace | .debug | .info => false

def alarms (events : List Event) : Nat := events.countP Event.isAlarm

@[simp]
theorem alarms_nil : alarms [] = 0 := rfl

@[simp]
theorem alarms_append (events later : List Event) :
    alarms (events ++ later) = alarms events + alarms later := List.countP_append

@[simp]
theorem alarms_map_inside (scope : Scope) (events : List Event) :
    alarms (events.map (Event.inside scope)) = alarms events := List.countP_map

theorem alarms_singleton {event : Event} (halarm : event.isAlarm = true) : alarms [event] = 1 := by
  simp [alarms, halarm]

theorem alarms_singleton_eq_zero {event : Event} (hnot : event.isAlarm = false) :
    alarms [event] = 0 := by
  simp [alarms, hnot]

namespace Action

variable {σ τ α β : Type} {cost : σ → Nat} {owed : Nat} {due : α → Nat} {action : Action σ α}

@[simp]
theorem events_map (f : α → β) (action : Action σ α) (state : σ) :
    ((f <$> action) state).events = (action state).events := List.append_nil _

@[simp]
theorem alarms_within (scope : Scope) (action : Action σ α) (state : σ) :
    alarms (within scope action state).events = alarms (action state).events :=
  alarms_map_inside scope _

@[simp]
theorem alarms_each_cons (step : α → Action σ β) (x : α) (rest : List α) (state : σ) :
    alarms (each step (x :: rest) state).events =
      alarms (step x state).events + alarms (each step rest (step x state).state).events := by
  simp [each]

/-- No failure is forgotten, and those that are added or owed are reported or due. -/
def Owes (cost : σ → Nat) (owed : Nat) (due : α → Nat) (action : Action σ α) : Prop :=
  ∀ state, cost state ≤ cost (action state).state ∧
    cost (action state).state + owed ≤
      cost state + alarms (action state).events + due (action state).answer

abbrev Reports (cost : σ → Nat) (action : Action σ α) : Prop := Owes cost 0 (fun _ => 0) action

namespace Owes

theorem le (howes : Owes cost owed due action) (state : σ) :
    cost state ≤ cost (action state).state := (howes state).1

protected theorem pure {answer : α} (hle : owed ≤ due answer) :
    Owes cost owed due (pure answer) := by
  intro state
  simp only [pure_apply, alarms_nil]
  omega

protected theorem nothing (answer : α) : Owes cost owed (fun _ => owed) (pure answer) :=
  .pure (Nat.le_refl owed)

protected theorem bind {middle : α → Nat} {due : β → Nat} {next : α → Action σ β}
    (hfirst : Owes cost owed middle action)
    (hnext : ∀ answer, Owes cost (middle answer) due (next answer)) :
    Owes cost owed due (action >>= next) := by
  intro state
  have hone := hfirst state
  have htwo := hnext (action state).answer (action state).state
  rw [state_bind, events_bind, answer_bind, alarms_append]
  omega

protected theorem read (part : σ → α) : Owes cost owed (fun _ => owed) (Action.read part) := by
  intro state
  simp only [read_apply, alarms_nil]
  omega

protected theorem update {step : σ → σ} (hcost : ∀ state, cost (step state) = cost state) :
    Owes cost owed (fun _ => owed) (Action.update step) := by
  intro state
  simp only [update_apply, alarms_nil, hcost]
  omega

protected theorem log (event : Event) : Owes cost owed (fun _ => owed) (Action.log event) := by
  intro state
  simp only [log_apply]
  omega

protected theorem alarm {event : Event} (halarm : event.isAlarm = true) :
    Owes cost 1 (fun _ => 0) (Action.log event) := by
  intro state
  simp only [log_apply, alarms_singleton halarm]
  omega

protected theorem call {step : σ → α × σ}
    (hcost : ∀ state, cost (step state).2 = cost state + due (step state).1) :
    Owes cost 0 due (Action.call step) := by
  intro state
  simp only [call_apply, alarms_nil, hcost]
  omega

protected theorem on {part : σ → τ} {put : τ → σ → σ} {inner : τ → Nat} {action : Action τ α}
    (hput : ∀ after state, cost (put after state) + inner (part state) = cost state + inner after)
    (howes : Owes inner owed due action) : Owes cost owed due (Action.on part put action) := by
  intro state
  have hpart := howes (part state)
  have hwhole := hput (action (part state)).state state
  simp only [Action.on]
  omega

protected theorem free (action : Action σ α) : Reports (fun _ => 0) action :=
  fun _ => ⟨Nat.le_refl 0, Nat.zero_le _⟩

protected theorem onFst {τ : Type} {cost : τ → Nat} (action : Action σ α) :
    Reports (fun pair : σ × τ => cost pair.2) (Action.onFst action) :=
  .on (fun _ _ => rfl) (.free action)

protected theorem onSnd (howes : Owes cost owed due action) :
    Owes (fun pair : τ × σ => cost pair.2) owed due (Action.onSnd action) :=
  .on (fun _ _ => Nat.add_comm _ _) howes

protected theorem within (scope : Scope) (howes : Owes cost owed due action) :
    Owes cost owed due (Action.within scope action) := by
  intro state
  rw [alarms_within]
  exact howes state

protected theorem each {step : α → Action σ β} (hstep : ∀ x, Reports cost (step x))
    (xs : List α) : Reports cost (Action.each step xs) := by
  induction xs with
  | nil => exact .nothing []
  | cons x rest ih => exact (hstep x).bind fun _ => ih.bind fun _ => .nothing _

end Owes

theorem alarms_each_of_cost_eq {step : α → Action σ β} (hreports : ∀ x, Reports cost (step x))
    (keeps : σ → Prop) {xs : List α}
    (hquiet : ∀ x ∈ xs, ∀ state, keeps state → keeps (step x state).state ∧
      (cost (step x state).state = cost state → alarms (step x state).events = 0))
    {state : σ} (hstate : keeps state) (hcost : cost (each step xs state).state = cost state) :
    alarms (each step xs state).events = 0 := by
  induction xs generalizing state with
  | nil => rfl
  | cons x rest ih =>
      have hone := (hreports x).le state
      have htwo := (Owes.each hreports rest).le (step x state).state
      rw [state_each_cons] at hcost
      have hsame := Nat.le_antisymm (hcost ▸ htwo) hone
      obtain ⟨hkeeps, hhead⟩ := hquiet x List.mem_cons_self state hstate
      rw [alarms_each_cons, hhead hsame,
        ih (fun y hy => hquiet y (List.mem_cons_of_mem x hy)) hkeeps (hcost.trans hsame.symm)]

end Action

end Multicast
