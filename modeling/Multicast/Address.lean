import Multicast.Address.IPv6

/-!
Addresses of either family.
-/

namespace Multicast

inductive Address where
  | v4 (addr : IPv4)
  | v6 (addr : IPv6)
  deriving DecidableEq

namespace Address

def isIPv4 : Address → Bool
  | v4 _ => true
  | v6 _ => false

def octets : Address → List UInt8
  | v4 addr => addr.octets.toList
  | v6 addr => addr.octets.toList

/-- Reads four octets as an IPv4 address and sixteen as an IPv6 address. -/
def ofOctets? (octets : List UInt8) : Option Address :=
  match octets with
  | [a, b, c, d] => some (v4 ⟨a, b, c, d⟩)
  | _ => (IPv6.ofList? (pairs octets)).map v6
where
  /-- Joins each two octets to a group; an odd octet at the end makes a group of its own. -/
  pairs : List UInt8 → List UInt16
    | high :: low :: rest => (high.toUInt16 <<< 8 ||| low.toUInt16) :: pairs rest
    | [odd] => [odd.toUInt16]
    | [] => []

def isMulticast : Address → Bool
  | v4 addr => addr.isMulticast
  | v6 addr => addr.isMulticast

def isUnspecified : Address → Bool
  | v4 addr => addr == IPv4.unspecified
  | v6 addr => addr == IPv6.unspecified

def toChars : Address → List Char
  | v4 addr => addr.toChars
  | v6 addr => addr.toChars

def text (addr : Address) : String := String.ofList addr.toChars

def ofChars? (cs : List Char) : Option Address :=
  match IPv4.ofChars? cs with
  | some addr => some (v4 addr)
  | none => (IPv6.ofChars? cs).map v6

def ofText? (text : String) : Option Address := ofChars? text.toList

/-- IPv4 before IPv6, and by octets within a family. -/
def le (x y : Address) : Bool :=
  match x, y with
  | v4 _, v6 _ => true
  | v6 _, v4 _ => false
  | _, _ => !decide (y.octets < x.octets)

end Address

end Multicast
