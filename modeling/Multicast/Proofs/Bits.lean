/-!
# Bits by shifts

A bit of a word is set and tested with a one that is shifted to its place. A shift by the width of
the word or more goes wrong, and has no result here.
-/

namespace Multicast

variable {width place : Nat}

/-- One, shifted to a place in a word; none if the shift goes wrong. -/
def shiftedOne? (width place : Nat) : Option (BitVec width) :=
  if place < width then some ((1 : BitVec width) <<< place) else none

theorem shiftedOne?_of_lt (hlt : place < width) :
    shiftedOne? width place = some (BitVec.twoPow width place) := by
  rw [shiftedOne?, if_pos hlt, BitVec.twoPow_eq]
  rfl

theorem and_twoPow_bne_zero (hlt : place < width) (word : BitVec width) :
    (word &&& BitVec.twoPow width place != 0) = word.getLsbD place := by
  have hne : BitVec.twoPow width place ≠ 0 := by
    intro hzero
    have hbit := congrArg (fun bits => bits.getLsbD place) hzero
    simp [hlt] at hbit
  rw [BitVec.and_twoPow]
  cases word.getLsbD place with
  | false => simp
  | true => simpa using hne

end Multicast
