/-!
Floating-point numbers of 64 bits: the one nearest to a decimal, and the shortest decimal that is
read back as a given one.
-/

namespace Multicast

/-- A 64-bit floating-point number. A finite one is its significand times two to its exponent; the
significand has 53 bits, or fewer if the exponent is the least. -/
inductive Binary64 where
  | nan
  | infinity (negative : Bool)
  | finite (negative : Bool) (significand : Nat) (exponent : Int)
  deriving DecidableEq

namespace Binary64

def precision : Nat := 53

def minExponent : Int := -1074

def maxExponent : Int := 971

/-- The quotient rounded to the nearest integer, a half to the even one. -/
def roundQuotient (num den : Nat) : Nat :=
  let floor := num / den
  match compare (2 * (num % den)) den with
  | .lt => floor
  | .gt => floor + 1
  | .eq => floor + floor % 2

def shifted (num den : Nat) (exponent : Int) : Nat × Nat :=
  (num <<< (-exponent).toNat, den <<< exponent.toNat)

/-- The exponent at which a positive fraction has a significand of full precision, or the least. -/
def exponentFor (num den : Nat) : Int :=
  let guess := (num.log2 : Int) - den.log2 - precision
  let scaled := shifted num den guess
  max minExponent (if scaled.1 < scaled.2 <<< precision then guess else guess + 1)

/-- Significand and exponent of the number nearest to a positive fraction, unless that is too
large. -/
def nearest? (num den : Nat) : Option (Nat × Int) :=
  let exponent := exponentFor num den
  let scaled := shifted num den exponent
  let rounded := roundQuotient scaled.1 scaled.2
  let result :=
    if rounded < 1 <<< precision then (rounded, exponent) else (rounded / 2, exponent + 1)
  if result.2 ≤ maxExponent then some result else none

/-- The decimal exponents beyond which a number is out of range, or too small to tell from zero. -/
def decimalLimit : Int := 400

def ofDecimal? (negative : Bool) (digits : Nat) (exponent : Int) : Option Binary64 :=
  let magnitude := ((Nat.toDigits 10 digits).length : Int) + exponent
  if digits = 0 || magnitude < -decimalLimit then some (finite negative 0 minExponent)
  else if decimalLimit < magnitude then none
  else
    (nearest? (digits * Nat.pow 10 exponent.toNat) (Nat.pow 10 (-exponent).toNat)).map fun result =>
      finite negative result.1 result.2

/-- The numbers that are read as a positive finite one: their bounds in quarters of its last place,
and whether the bounds are among them. -/
structure Neighbourhood where
  low : Nat
  high : Nat
  closed : Bool

/-- Below a power of two the next number is only half as far away. -/
def neighbourhood (significand : Nat) (exponent : Int) : Neighbourhood where
  low :=
    if significand = 1 <<< (precision - 1) ∧ minExponent < exponent then 4 * significand - 1
    else 4 * significand - 2
  high := 4 * significand + 2
  closed := significand % 2 = 0

/-- The multiple of a power of ten next to a positive finite number that is read as that number,
the nearer one of two. -/
def onGrid? (significand : Nat) (exponent grid : Int) : Option (Nat × Int) :=
  let around := neighbourhood significand exponent
  let binary := exponent - 2
  -- A count of quarters times `unit` compares with a count of grid steps times `step`.
  let unit := Nat.pow 10 (-grid).toNat <<< binary.toNat
  let step := Nat.pow 10 grid.toNat <<< (-binary).toNat
  let value := 4 * significand * unit
  let inside (count : Nat) : Bool :=
    if around.closed then
      around.low * unit ≤ count * step && count * step ≤ around.high * unit
    else around.low * unit < count * step && count * step < around.high * unit
  let below := value / step
  let above := below + 1
  match inside below, inside above with
  | true, true => some (if above * step - value ≤ value - below * step then above else below, grid)
  | true, false => some (below, grid)
  | false, true => some (above, grid)
  | false, false => none

/-- A power of ten above a positive finite number, less than a hundred times as large. -/
def decimalTop (significand : Nat) (exponent : Int) : Int :=
  (((significand.log2 : Int) + 1 + exponent) * 30103) / 100000 + 1

/-- The fewest digits that are read as a positive finite number, with their power of ten. There are
at most seventeen. -/
def shortest (significand : Nat) (exponent : Int) : Nat × Int :=
  let top := decimalTop significand exponent
  ((List.range 20).findSome? fun (i : Nat) => onGrid? significand exponent (top - i)).getD (0, 0)

def positional (digits : Nat) (exponent : Int) : List Char :=
  if 0 ≤ exponent then
    Nat.toDigits 10 digits ++ List.replicate exponent.toNat '0' ++ ['.', '0']
  else
    let places := (-exponent).toNat
    let written := Nat.toDigits 10 digits
    let padded := List.replicate (places + 1 - written.length) '0' ++ written
    padded.take (padded.length - places) ++ ['.'] ++ padded.drop (padded.length - places)

def signChars (negative : Bool) : List Char := if negative then ['-'] else []

/-- The shortest text that is read back as the number, never with an exponent. -/
def text : Binary64 → String
  | nan => "NaN"
  | infinity negative => String.ofList (signChars negative ++ "inf".toList)
  | finite negative 0 _ => String.ofList (signChars negative ++ "0.0".toList)
  | finite negative significand exponent =>
    let decimal := shortest significand exponent
    String.ofList (signChars negative ++ positional decimal.1 decimal.2)

end Binary64

end Multicast
