import Mathlib.Data.List.Forall2

/-!
# Results that are successes

A computation that can fail succeeds exactly if each of its parts does.
-/

namespace Multicast

variable {ε α β : Type}

theorem bind_eq_ok_iff {first : Except ε α} {next : α → Except ε β} {result : β} :
    first >>= next = .ok result ↔ ∃ value, first = .ok value ∧ next value = .ok result := by
  cases first with
  | error err => simp [bind, Except.bind]
  | ok value => simp [bind, Except.bind]

theorem bind_eq_error_iff {first : Except ε α} {next : α → Except ε β} {err : ε} :
    first >>= next = .error err ↔
      first = .error err ∨ ∃ value, first = .ok value ∧ next value = .error err := by
  cases first with
  | error err => simp [bind, Except.bind]
  | ok value => simp [bind, Except.bind]

theorem isOk_iff {first : Except ε α} : first.isOk = true ↔ ∃ value, first = .ok value := by
  cases first <;> simp [Except.isOk, Except.toBool]

theorem map_eq_ok_iff {f : α → β} {first : Except ε α} {result : β} :
    first.map f = .ok result ↔ ∃ value, first = .ok value ∧ f value = result := by
  cases first with
  | error err => simp [Except.map]
  | ok value => simp [Except.map]

section MapError

variable {ε' : Type} {f : ε → ε'}

@[simp]
theorem mapError_ok (value : α) : (Except.ok value : Except ε α).mapError f = .ok value := rfl

@[simp]
theorem mapError_error (err : ε) : (Except.error err : Except ε α).mapError f = .error (f err) :=
  rfl

theorem mapError_eq_ok_iff {first : Except ε α} {result : α} :
    first.mapError f = .ok result ↔ first = .ok result := by
  cases first <;> simp

end MapError

theorem mapM_eq_ok_iff {f : α → Except ε β} {xs : List α} {ys : List β} :
    xs.mapM f = .ok ys ↔ List.Forall₂ (fun x y => f x = .ok y) xs ys := by
  induction xs generalizing ys with
  | nil => simp [pure, Except.pure, eq_comm]
  | cons x rest ih =>
      simp only [List.mapM_cons, bind_eq_ok_iff, ih, List.forall₂_cons_left_iff, pure, Except.pure,
        Except.ok.injEq]
      grind

theorem mapM_eq_error_iff {f : α → Except ε β} {xs : List α} {err : ε} :
    xs.mapM f = .error err ↔
      ∃ passed x rest, xs = passed ++ x :: rest ∧ (∀ y ∈ passed, ∃ value, f y = .ok value) ∧
        f x = .error err := by
  induction xs with
  | nil => simp [pure, Except.pure]
  | cons head tail ih =>
      simp only [List.mapM_cons, bind_eq_error_iff, ih, pure, Except.pure, reduceCtorEq, and_false,
        exists_false, or_false]
      constructor
      · rintro (hhead | ⟨value, hvalue, passed, x, rest, rfl, hpassed, hfails⟩)
        · exact ⟨[], head, tail, rfl, by simp, hhead⟩
        · refine ⟨head :: passed, x, rest, rfl, ?_, hfails⟩
          exact List.forall_mem_cons.mpr ⟨⟨value, hvalue⟩, hpassed⟩
      · rintro ⟨passed, x, rest, hsplit, hpassed, hfails⟩
        cases passed with
        | nil =>
            cases hsplit
            exact .inl hfails
        | cons _ passed =>
            cases hsplit
            obtain ⟨value, hvalue⟩ := hpassed head List.mem_cons_self
            exact .inr ⟨value, hvalue, passed, x, rest, rfl,
              fun y hmem => hpassed y (List.mem_cons_of_mem _ hmem), hfails⟩

theorem forM_eq_ok_iff {f : α → Except ε Unit} {xs : List α} :
    xs.forM f = .ok () ↔ ∀ x ∈ xs, f x = .ok () := by
  induction xs with
  | nil => simp [pure, Except.pure]
  | cons x rest ih =>
      rw [List.forM, bind_eq_ok_iff, List.forall_mem_cons, ← ih]
      exact ⟨fun ⟨(), hhead, hrest⟩ => ⟨hhead, hrest⟩, fun hboth => ⟨(), hboth⟩⟩

theorem exists_of_mapM_eq_ok {f : α → Except ε β} {xs : List α} {ys : List β}
    (hok : xs.mapM f = .ok ys) :
    (∀ y ∈ ys, ∃ x ∈ xs, f x = .ok y) ∧ ∀ x ∈ xs, ∃ y ∈ ys, f x = .ok y := by
  have hall := mapM_eq_ok_iff.mp hok
  clear hok
  induction hall with
  | nil => simp
  | cons hhead _ ih =>
      refine ⟨fun y hmem => ?_, fun x hmem => ?_⟩
      · rcases List.mem_cons.mp hmem with rfl | hrest
        · exact ⟨_, List.mem_cons_self, hhead⟩
        · obtain ⟨x, hx, hok⟩ := ih.1 y hrest
          exact ⟨x, List.mem_cons_of_mem _ hx, hok⟩
      · rcases List.mem_cons.mp hmem with rfl | hrest
        · exact ⟨_, List.mem_cons_self, hhead⟩
        · obtain ⟨y, hy, hok⟩ := ih.2 x hrest
          exact ⟨y, List.mem_cons_of_mem _ hy, hok⟩

theorem exists_mapM_eq_ok_iff {f : α → Except ε β} {xs : List α} :
    (∃ ys, xs.mapM f = .ok ys) ↔ ∀ x ∈ xs, ∃ y, f x = .ok y := by
  constructor
  · rintro ⟨ys, hok⟩ x hmem
    obtain ⟨y, -, hy⟩ := (exists_of_mapM_eq_ok hok).2 x hmem
    exact ⟨y, hy⟩
  · intro hall
    cases hresult : xs.mapM f with
    | ok ys => exact ⟨ys, rfl⟩
    | error err =>
        obtain ⟨passed, x, rest, rfl, -, hfails⟩ := mapM_eq_error_iff.mp hresult
        obtain ⟨y, hy⟩ := hall x (by simp)
        simp [hy] at hfails

end Multicast
