import Multicast.Text.Numeral

/-!
# Numerals are read as they are written

The digits of a number in a base up to sixteen read as this number. They begin with a zero only for
zero itself, and nothing but digits is read.
-/

namespace Multicast.Numeral

variable {base : Nat}

theorem digit?_digitChar (hle : base ≤ 16) {value : Nat} (hlt : value < base) :
    digit? base value.digitChar = some value := by
  have hdigits : ∀ value < 16, ∀ base < 17, value < base →
      digit? base value.digitChar = some value := by decide
  exact hdigits value (Nat.lt_of_lt_of_le hlt hle) base (Nat.lt_succ_of_le hle) hlt

/-- Numbers have one digit, or the digits of a smaller number and one more. -/
theorem digits_induction {motive : Nat → Prop} (hone : 1 < base)
    (single : ∀ number < base, motive number)
    (more : ∀ number, base ≤ number → motive (number / base) → motive number) (number : Nat) :
    motive number := by
  induction number using Nat.strongRecOn with
  | ind number ih =>
      rcases Nat.lt_or_ge number base with hlt | hge
      · exact single number hlt
      · exact more number hge (ih _ (Nat.div_lt_self (by omega) hone))

/-! ### Reading -/

theorem readFrom?_append (start : Nat) (cs rest : List Char) :
    readFrom? base start (cs ++ rest) =
      (readFrom? base start cs).bind fun number => readFrom? base number rest := by
  induction cs generalizing start with
  | nil => rfl
  | cons c cs ih =>
      rw [List.cons_append, readFrom?, readFrom?]
      cases digit? base c with
      | none => rfl
      | some value => exact ih _

theorem read?_eq_readFrom? {cs : List Char} (hne : cs ≠ []) :
    read? base cs = readFrom? base 0 cs := by
  cases cs with
  | nil => exact absurd rfl hne
  | cons c rest => rfl

/-- A number is what its digits read as. -/
theorem read?_toDigits (hone : 1 < base) (hle : base ≤ 16) (number : Nat) :
    read? base (base.toDigits number) = some number := by
  rw [read?_eq_readFrom? Nat.toDigits_ne_nil]
  induction number using digits_induction hone with
  | single number hlt =>
      rw [Nat.toDigits_of_lt_base hlt, readFrom?, digit?_digitChar hle hlt]
      simp [readFrom?]
  | more number hge ih =>
      have hmod : number % base < base := Nat.mod_lt _ (by omega)
      rw [Nat.toDigits_of_base_le hone hge, readFrom?_append, ih, Option.bind_some, readFrom?,
        digit?_digitChar hle hmod]
      simp only [readFrom?, Nat.div_add_mod']

theorem isSome_digit?_of_readFrom? {cs : List Char} {start number : Nat}
    (hread : readFrom? base start cs = some number) :
    ∀ c ∈ cs, (digit? base c).isSome = true := by
  induction cs generalizing start with
  | nil => simp
  | cons head rest ih =>
      rw [readFrom?] at hread
      cases hdigit : digit? base head with
      | none => simp [hdigit] at hread
      | some value =>
          rw [hdigit] at hread
          exact List.forall_mem_cons.mpr ⟨by rw [hdigit]; rfl, ih hread⟩

theorem isSome_digit?_of_read? {cs : List Char} {number : Nat}
    (hread : read? base cs = some number) : ∀ c ∈ cs, (digit? base c).isSome = true := by
  cases cs with
  | nil => simp
  | cons head rest => exact isSome_digit?_of_readFrom? hread

/-! ### Digits -/

theorem notMem_toDigits (hone : 1 < base) {c : Char} (hdigits : ∀ value < base, c ≠ value.digitChar)
    (number : Nat) : c ∉ base.toDigits number := by
  induction number using digits_induction hone with
  | single number hlt =>
      rw [Nat.toDigits_of_lt_base hlt, List.mem_singleton]
      exact hdigits number hlt
  | more number hge ih =>
      rw [Nat.toDigits_of_base_le hone hge, List.mem_append, List.mem_singleton, not_or]
      exact ⟨ih, hdigits _ (Nat.mod_lt _ (by omega))⟩

theorem eq_zero_of_head?_toDigits (hone : 1 < base) (hle : base ≤ 16) (number : Nat) :
    (base.toDigits number).head? = some '0' → number = 0 := by
  induction number using digits_induction hone with
  | single number hlt =>
      intro hhead
      have hdigits : ∀ value < 16, value.digitChar = '0' → value = 0 := by decide
      rw [Nat.toDigits_of_lt_base hlt, List.head?_cons, Option.some_inj] at hhead
      exact hdigits number (Nat.lt_of_lt_of_le hlt hle) hhead
  | more number hge ih =>
      intro hhead
      have hpos : 0 < number / base := Nat.div_pos hge (by omega)
      obtain ⟨first, rest, hfirst⟩ :=
        List.exists_cons_of_ne_nil (Nat.toDigits_ne_nil : base.toDigits (number / base) ≠ [])
      rw [Nat.toDigits_of_base_le hone hge, hfirst] at hhead
      rw [hfirst] at ih
      exact absurd (ih hhead) (by omega)

end Multicast.Numeral
