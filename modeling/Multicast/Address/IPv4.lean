import Multicast.Text.Numeral

/-!
IPv4 addresses: four octets in network order, written as a dotted quad.
-/

namespace Multicast

structure IPv4 where
  a : UInt8
  b : UInt8
  c : UInt8
  d : UInt8
  deriving DecidableEq, Repr

namespace IPv4

def unspecified : IPv4 := ⟨0, 0, 0, 0⟩

def localhost : IPv4 := ⟨127, 0, 0, 1⟩

def octets (addr : IPv4) : Vector UInt8 4 := #v[addr.a, addr.b, addr.c, addr.d]

/-- Groups live in 224.0.0.0/4. -/
def isMulticast (addr : IPv4) : Bool := 224 ≤ addr.a && addr.a < 240

def octetChars (octet : UInt8) : List Char := Nat.toDigits 10 octet.toNat

def toChars (addr : IPv4) : List Char := ['.'].intercalate (addr.octets.toList.map octetChars)

def text (addr : IPv4) : String := String.ofList addr.toChars

/-- Reads one to three decimal digits with no leading zero. -/
def octet? (digits : List Char) : Option UInt8 :=
  if digits.length ≤ 3 && (digits.head? != some '0' || digits.length == 1) then
    match Numeral.read? 10 digits with
    | some n => if n < 256 then some (UInt8.ofNat n) else none
    | none => none
  else none

def ofChars? (cs : List Char) : Option IPv4 :=
  match (cs.splitOn '.').mapM octet? with
  | some [a, b, c, d] => some ⟨a, b, c, d⟩
  | _ => none

end IPv4

end Multicast
