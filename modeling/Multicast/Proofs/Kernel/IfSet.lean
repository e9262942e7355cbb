import Multicast.Kernel.Control
import Multicast.Proofs.Bits

/-!
# The kernel's set of interface numbers

Putting a number in sets one bit of one word. No other number is found by this bit, and a number
that has no bit is never found. The numbers that are found tell all words, so what is left after any
insertions depends on which numbers were put in, not on their order or how often.
-/

namespace Multicast.IfSet

theorem contains_of_le (set : IfSet) {n : Nat} (hle : 256 ≤ n) : set.contains n = false := by
  have hword : 8 ≤ n / 32 := by omega
  simp [contains, Vector.getElem?_eq_none hword]

theorem contains_eq_getElem (set : IfSet) {n : Nat} (hlt : n / 32 < 8) :
    set.contains n = (set.words[n / 32]).getLsbD (n % 32) := by
  simp [contains, hlt]

@[simp]
theorem contains_empty (n : Nat) : empty.contains n = false := by
  by_cases hlt : n / 32 < 8
  · simp [contains_eq_getElem _ hlt, empty]
  · exact contains_of_le _ (by omega)

theorem contains_insert (set : IfSet) (n m : Nat) :
    (set.insert n).contains m = (set.contains m || decide (m = n ∧ n < 256)) := by
  by_cases hm : m < 256
  · have hword : m / 32 < 8 := by omega
    rw [contains_eq_getElem _ hword, contains_eq_getElem _ hword]
    -- a word of its own, or a bit of its own
    by_cases hsame : n / 32 = m / 32
    · have hbit : m % 32 = n % 32 ↔ m = n := by omega
      have hn : n < 256 := by omega
      simp [insert, hsame, hword, hn, Nat.mod_lt, hbit]
    · have hne : m ≠ n := by
        intro heq
        exact hsame (by rw [heq])
      simp [insert, Vector.getElem_setIfInBounds_ne, hsame, hne]
  · rw [contains_of_le _ (Nat.not_lt.mp hm), contains_of_le _ (Nat.not_lt.mp hm)]
    simp
    omega

theorem contains_foldl_insert (numbers : List Nat) (set : IfSet) (n : Nat) :
    (numbers.foldl insert set).contains n =
      (set.contains n || decide (n ∈ numbers ∧ n < 256)) := by
  induction numbers generalizing set with
  | nil => simp
  | cons number rest ih =>
      rw [List.foldl_cons, ih, contains_insert]
      grind

theorem contains_ofList (numbers : List Nat) (n : Nat) :
    (ofList numbers).contains n = decide (n ∈ numbers ∧ n < 256) := by
  rw [ofList, contains_foldl_insert, contains_empty, Bool.false_or]

theorem getLsbD_words (set : IfSet) {word bit : Nat} (hword : word < 8) (hbit : bit < 32) :
    (set.words[word]).getLsbD bit = set.contains (32 * word + bit) := by
  have hdiv : (32 * word + bit) / 32 = word := by omega
  have hmod : (32 * word + bit) % 32 = bit := by omega
  simp [contains, hdiv, hmod, hword]

theorem words_eq_zero (set : IfSet) {word : Nat} (hword : word < 8)
    (hnone : ∀ bit < 32, set.contains (32 * word + bit) = false) : set.words[word] = 0#32 := by
  apply BitVec.eq_of_getLsbD_eq
  intro bit hbit
  rw [getLsbD_words _ hword hbit, hnone bit hbit, BitVec.getLsbD_zero]

theorem eq_of_contains {set other : IfSet}
    (hsame : ∀ n < 256, set.contains n = other.contains n) : set = other := by
  have hwords : set.words = other.words := by
    apply Vector.ext
    intro word hword
    apply BitVec.eq_of_getLsbD_eq
    intro bit hbit
    rw [getLsbD_words _ hword hbit, getLsbD_words _ hword hbit, hsame _ (by omega)]
  cases set
  cases other
  rw [IfSet.mk.injEq]
  exact hwords

theorem insert_of_le (set : IfSet) {n : Nat} (hle : 256 ≤ n) : set.insert n = set := by
  apply eq_of_contains
  intro m _
  rw [contains_insert, decide_eq_false (by omega), Bool.or_false]

/-! ### Shifts

The bit of a number is found by shifting, once its word is found. -/

/-- `insert` by a shift in the number's word, if it has one; none if the shift goes wrong. -/
def insertShifting (set : IfSet) (n : Nat) : Option IfSet :=
  match set.words[n / 32]? with
  | none => some set
  | some word => do
    let bit ← shiftedOne? 32 (n % 32)
    return ⟨set.words.setIfInBounds (n / 32) (word ||| bit)⟩

def containsShifting (set : IfSet) (n : Nat) : Option Bool :=
  match set.words[n / 32]? with
  | none => some false
  | some word => do
    let bit ← shiftedOne? 32 (n % 32)
    return word &&& bit != 0

theorem insertShifting_eq (set : IfSet) (n : Nat) : set.insertShifting n = some (set.insert n) := by
  have hbit : shiftedOne? 32 (n % 32) = some (BitVec.twoPow 32 (n % 32)) :=
    shiftedOne?_of_lt (Nat.mod_lt n (by decide))
  unfold insertShifting
  split
  case h_1 hnone =>
    have hle : 8 ≤ n / 32 := by simpa using hnone
    rw [insert_of_le set (by omega)]
  case h_2 word hword => simp [hbit, insert, hword]

theorem containsShifting_eq (set : IfSet) (n : Nat) :
    set.containsShifting n = some (set.contains n) := by
  have hlt : n % 32 < 32 := Nat.mod_lt n (by decide)
  unfold containsShifting contains
  split
  case h_1 hnone => simp [hnone]
  case h_2 word hword =>
    rw [hword, Option.getD_some, ← and_twoPow_bne_zero hlt, shiftedOne?_of_lt hlt]
    rfl

theorem foldlM_insertShifting (numbers : List Nat) (set : IfSet) :
    numbers.foldlM insertShifting set = some (numbers.foldl insert set) := by
  induction numbers generalizing set with
  | nil => rfl
  | cons number rest ih =>
      rw [List.foldlM_cons, insertShifting_eq, Option.bind_eq_bind, Option.bind_some, ih,
        List.foldl_cons]

/-- **A set of the numbers below 256:** of the numbers that were put in, those below 256 are found
and no others, no shift goes wrong, and order and repetition do not show in the words. -/
theorem ofList_exact (numbers : List Nat) :
    let set := ofList numbers
    (numbers.foldlM insertShifting empty = some set ∧
      ∀ m, set.containsShifting m = some (set.contains m)) ∧
    (∀ m, set.contains m = true ↔ m < 256 ∧ m ∈ numbers) ∧
    (∀ (before : IfSet) n, 256 ≤ n → before.insert n = before) ∧
    ∀ others : List Nat, (∀ n < 256, n ∈ others ↔ n ∈ numbers) → ofList others = set := by
  intro set
  refine ⟨⟨foldlM_insertShifting numbers empty, set.containsShifting_eq⟩, ?_, ?_, ?_⟩
  · intro m
    rw [contains_ofList, decide_eq_true_eq, and_comm]
  · exact fun before n hle => before.insert_of_le hle
  · intro others hothers
    apply eq_of_contains
    intro n hn
    rw [contains_ofList, contains_ofList, decide_eq_decide, hothers n hn]

theorem ofList_exact_edges :
    let set := ofList [31, 32, 256, 31, 4294967296]
    (set.contains 31 = true ∧ set.contains 32 = true ∧ ¬set.contains 33 = true ∧
      ¬set.contains 256 = true) ∧
    set.insert 256 = set ∧ ofList [32, 31] = set := by
  intro set
  obtain ⟨-, hcontains, hlarge, hothers⟩ := ofList_exact [31, 32, 256, 31, 4294967296]
  refine ⟨?_, hlarge set 256 (by decide), hothers [32, 31] ?_⟩
  · simp only [set, hcontains]
    decide
  · intro n hn
    simp only [List.mem_cons, List.not_mem_nil, or_false]
    omega

end Multicast.IfSet
