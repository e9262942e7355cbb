import Mathlib.Data.List.Forall2
import Multicast.Action

/-!
# Two runs side by side

Two actions are related when from related states they give related answers and leave related
states. What they log has no part in it, so runs can be compared that log different things. Each way
of putting actions together keeps this.
-/

namespace Multicast.Action

variable {σ σ' τ τ' α α' β β' : Type}

/-- From related states come related answers, and states that are related again. -/
def Relates (states : σ → σ' → Prop) (answers : α → α' → Prop) (one : Action σ α)
    (other : Action σ' α') : Prop :=
  ∀ state state', states state state' →
    answers (one state).answer (other state').answer ∧ states (one state).state (other state').state

namespace Relates

variable {states : σ → σ' → Prop} {answers : α → α' → Prop} {one : Action σ α}
  {other : Action σ' α'}

protected theorem pure {answer : α} {answer' : α'} (hanswers : answers answer answer') :
    Relates states answers (pure answer) (pure answer') :=
  fun _ _ hstates => ⟨hanswers, hstates⟩

protected theorem bind {results : β → β' → Prop} {next : α → Action σ β} {next' : α' → Action σ' β'}
    (hfirst : Relates states answers one other)
    (hnext : ∀ answer answer', answers answer answer' →
      Relates states results (next answer) (next' answer')) :
    Relates states results (one >>= next) (other >>= next') := by
  intro state state' hstates
  obtain ⟨hanswers, hmiddle⟩ := hfirst state state' hstates
  exact hnext _ _ hanswers _ _ hmiddle

protected theorem bind_eq {results : β → β' → Prop} {other : Action σ' α} {next : α → Action σ β}
    {next' : α → Action σ' β'} (hfirst : Relates states Eq one other)
    (hnext : ∀ answer, Relates states results (next answer) (next' answer)) :
    Relates states results (one >>= next) (other >>= next') :=
  hfirst.bind fun answer _ hanswer => hanswer ▸ hnext answer

protected theorem log (event event' : Event) :
    Relates states Eq (Action.log event) (Action.log event') :=
  fun _ _ hstates => ⟨rfl, hstates⟩

protected theorem read {part : σ → α} {part' : σ' → α}
    (hpart : ∀ state state', states state state' → part state = part' state') :
    Relates states Eq (Action.read part) (Action.read part') :=
  fun state state' hstates => ⟨hpart state state' hstates, hstates⟩

protected theorem update {step : σ → σ} {step' : σ' → σ'}
    (hstep : ∀ state state', states state state' → states (step state) (step' state')) :
    Relates states Eq (Action.update step) (Action.update step') :=
  fun state state' hstates => ⟨rfl, hstep state state' hstates⟩

protected theorem on {part : σ → τ} {put : τ → σ → σ} {part' : σ' → τ} {put' : τ → σ' → σ'}
    {action : Action τ α} {action' : Action τ α'}
    (hpart : ∀ state state', states state state' → part state = part' state')
    (hput : ∀ after state state', states state state' →
      states (put after state) (put' after state'))
    (haction : Relates Eq answers action action') :
    Relates states answers (Action.on part put action) (Action.on part' put' action') := by
  intro state state' hstates
  obtain ⟨hanswers, hafter⟩ := haction _ _ (hpart state state' hstates)
  rw [state_on, state_on, hafter]
  exact ⟨hanswers, hput _ state state' hstates⟩

protected theorem onFst {rest : τ → τ' → Prop} (hrelates : Relates states answers one other) :
    Relates (fun pair pair' => states pair.1 pair'.1 ∧ rest pair.2 pair'.2) answers
      (Action.onFst one) (Action.onFst other) := by
  intro pair pair' hpair
  obtain ⟨hanswers, hafter⟩ := hrelates _ _ hpair.1
  exact ⟨hanswers, hafter, hpair.2⟩

protected theorem onSnd {rest : τ → τ' → Prop} (hrelates : Relates states answers one other) :
    Relates (fun pair pair' => rest pair.1 pair'.1 ∧ states pair.2 pair'.2) answers
      (Action.onSnd one) (Action.onSnd other) := by
  intro pair pair' hpair
  obtain ⟨hanswers, hafter⟩ := hrelates _ _ hpair.2
  exact ⟨hanswers, hpair.1, hafter⟩

protected theorem within (scope scope' : Scope) (hrelates : Relates states answers one other) :
    Relates states answers (Action.within scope one) (Action.within scope' other) :=
  hrelates

protected theorem each {step : α → Action σ β} {step' : α' → Action σ' β} {xs : List α}
    {xs' : List α'}
    (hstep : List.Forall₂ (fun x x' => Relates states Eq (step x) (step' x')) xs xs') :
    Relates states Eq (Action.each step xs) (Action.each step' xs') := by
  induction hstep with
  | nil => exact .pure rfl
  | cons hhead _ ih => exact hhead.bind_eq fun _ => ih.bind_eq fun _ => .pure rfl

end Relates

theorem relates_self (action : Action σ α) : Relates Eq Eq action action := by
  rintro state _ rfl
  exact ⟨rfl, rfl⟩

end Multicast.Action
