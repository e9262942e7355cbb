import Multicast.Text.Numeral
import Multicast.Toml.Value

/-!
Values of a TOML document that are written without quotes or brackets: booleans, numbers, dates and
times.
-/

namespace Multicast.Toml.Scalar

def isDigit (base : Nat) (c : Char) : Bool := (Numeral.digit? base c).isSome

/-- Digits, with single underscores between some of them, which are left out. -/
def digits? (base : Nat) (cs : List Char) : Option (List Char) :=
  let runs := cs.splitOn '_'
  if runs.all fun run => !run.isEmpty && run.all (isDigit base) then some runs.flatten else none

def sign : List Char → Option Char × List Char
  | '+' :: rest => (some '+', rest)
  | '-' :: rest => (some '-', rest)
  | cs => (none, cs)

def wholeDigits? (cs : List Char) : Option (List Char) :=
  if cs = ['0'] || cs.head? ≠ some '0' then digits? 10 cs else none

/-- The integer is one that 128 bits can hold, with a sign or without one. -/
def isHeld (n : Int) : Bool :=
  -0x80000000000000000000000000000000 ≤ n && n ≤ 0xffffffffffffffffffffffffffffffff

def held (base : Nat) (negative : Bool) (digits : List Char) : Value :=
  let value := (Numeral.read? base digits).map fun n => if negative then -n else (n : Int)
  .integer (value.filter isHeld)

/-- An integer of a base other than ten. It may lack all digits, and then no integer can be held. -/
def based? (base : Nat) (cs : List Char) : Option Value :=
  if cs.isEmpty then some (held base false []) else (digits? base cs).map (held base false)

/-- Runs between underscores start and end with digits, letters up to `f` counting as such; what
stands between is not looked at. -/
def areRuns (runs : List (List Char)) : Bool :=
  runs.all (fun run => run.head?.any (isDigit 16)) &&
    runs.dropLast.all fun run => run.getLast?.any (isDigit 16)

/-- Nothing in the run tells of a fraction, an exponent or a second word. -/
def isWhole (run : List Char) : Bool := run.all fun c => !(['.', 'e', 'E', ' '].contains c)

/-- A decimal integer. Only its first run of digits is looked at closely: a later one with other
characters in it makes an integer that cannot be held. -/
def decimalInteger? (cs : List Char) : Option Value :=
  let signed := sign cs
  match signed.2.splitOn '_' with
  | first :: others =>
    let starts := !first.isEmpty && first.all (isDigit 10) &&
      (others.isEmpty && first = ['0'] || first.head? ≠ some '0')
    if starts && areRuns others && others.all isWhole then
      some (held 10 (signed.1 = some '-') (first ++ others.flatten))
    else none
  | [] => none

/-- A decimal integer with or without a sign, or one of another base without a sign. -/
def integer? (cs : List Char) : Option Value :=
  match cs with
  | '0' :: 'x' :: rest => based? 16 rest
  | '0' :: 'o' :: rest => based? 8 rest
  | '0' :: 'b' :: rest => based? 2 rest
  | _ => decimalInteger? cs

def cutAt (p : Char → Bool) (cs : List Char) : List Char × Option (List Char) :=
  match cs.dropWhile (fun c => !p c) with
  | [] => (cs, none)
  | _ :: rest => (cs.takeWhile (fun c => !p c), some rest)

def exponent? : Option (List Char) → Option Int
  | none => some 0
  | some cs =>
    let signed := sign cs
    ((digits? 10 signed.2).bind (Numeral.read? 10)).map fun n =>
      if signed.1 = some '-' then -n else n

def fraction? : Option (List Char) → Option (List Char)
  | none => some []
  | some cs => digits? 10 cs

def decimal? (negative : Bool) (cs : List Char) : Option Value :=
  let atExponent := cutAt (fun c => c = 'e' || c = 'E') cs
  let atPoint := cutAt (fun c => c = '.') atExponent.1
  if atExponent.2.isNone && atPoint.2.isNone then none
  else
    match wholeDigits? atPoint.1, fraction? atPoint.2, exponent? atExponent.2 with
    | some whole, some fraction, some exponent =>
      (Numeral.read? 10 (whole ++ fraction)).map fun digits =>
        .float (Binary64.ofDecimal? negative digits (exponent - fraction.length))
    | _, _, _ => none

def float? (cs : List Char) : Option Value :=
  let signed := sign cs
  if signed.2 = "inf".toList then some (.float (some (.infinity (signed.1 = some '-'))))
  else if signed.2 = "nan".toList then some (.float (some .nan))
  else decimal? (signed.1 = some '-') signed.2

def field? (width : Nat) (cs : List Char) : Option (Nat × List Char) :=
  let digits := cs.take width
  if digits.length = width then
    (Numeral.read? 10 digits).map fun n => (n, cs.drop width)
  else none

def fieldBehind? (mark : Char) (limit : Nat) (cs : List Char) : Option (Nat × List Char) :=
  match cs with
  | c :: rest =>
    if c = mark then (field? 2 rest).filter fun field => field.1 ≤ limit else none
  | [] => none

def isLeapYear (year : Nat) : Bool := year % 4 = 0 && (year % 100 ≠ 0 || year % 400 = 0)

def daysIn (year month : Nat) : Nat :=
  if month = 2 then if isLeapYear year then 29 else 28
  else if [4, 6, 9, 11].contains month then 30
  else 31

def afterDate? (cs : List Char) : Option (List Char) := do
  let (year, rest) ← field? 4 cs
  let (month, rest) ← fieldBehind? '-' 12 rest
  let (day, rest) ← fieldBehind? '-' (daysIn year month) rest
  if 1 ≤ month && 1 ≤ day then some rest else none

def afterFraction? : List Char → Option (List Char)
  | '.' :: rest =>
    if rest.head?.any (isDigit 10) then some (rest.dropWhile (isDigit 10)) else none
  | cs => some cs

def afterTime? (cs : List Char) : Option (List Char) := do
  let (_, rest) ← (field? 2 cs).filter fun field => field.1 ≤ 23
  let (_, rest) ← fieldBehind? ':' 59 rest
  match rest with
  | ':' :: _ =>
    let (_, rest) ← fieldBehind? ':' 60 rest
    afterFraction? rest
  | _ => some rest

def isOffset (cs : List Char) : Bool :=
  match cs with
  | ['Z'] | ['z'] => true
  | mark :: _ =>
    (mark = '+' || mark = '-') &&
      ((fieldBehind? mark 23 cs).bind fun field => fieldBehind? ':' 59 field.2).any
        (·.2.isEmpty)
  | [] => false

/-- The text is a date, a time of day, or a date and a time with or without an offset. -/
def isMoment (cs : List Char) : Bool :=
  match afterDate? cs with
  | none => (afterTime? cs).any List.isEmpty
  | some [] => true
  | some (mark :: rest) =>
    [' ', 'T', 't'].contains mark &&
      (afterTime? rest).any fun rest => rest.isEmpty || isOffset rest

def boolean? (cs : List Char) : Option Value :=
  if cs = "true".toList then some (.boolean true)
  else if cs = "false".toList then some (.boolean false)
  else none

def read? (cs : List Char) : Option Value :=
  boolean? cs <|> integer? cs <|> float? cs <|>
    if isMoment cs then some .moment else none

end Multicast.Toml.Scalar
