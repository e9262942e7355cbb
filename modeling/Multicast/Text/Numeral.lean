/-!
Numerals: the number that a run of digits writes in a given base. Writing is `Nat.toDigits`,
whose letters are lower case; reading takes letters of either case.
-/

namespace Multicast.Numeral

/-- The value of a digit in a base; letters count on from ten. -/
def digit? (base : Nat) (c : Char) : Option Nat :=
  let value :=
    if c.isDigit then c.toNat - '0'.toNat
    else if c.isLower then c.toNat - 'a'.toNat + 10
    else if c.isUpper then c.toNat - 'A'.toNat + 10
    else base
  if value < base then some value else none

/-- The number that a run of digits writes, most significant digit first. -/
def readFrom? (base : Nat) : Nat → List Char → Option Nat
  | start, [] => some start
  | start, c :: rest =>
    match digit? base c with
    | some value => readFrom? base (start * base + value) rest
    | none => none

def read? (base : Nat) : List Char → Option Nat
  | [] => none
  | digits => readFrom? base 0 digits

end Multicast.Numeral
