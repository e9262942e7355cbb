import Multicast.Address.IPv4

/-!
IPv6 addresses: eight 16-bit groups. The text leaves out the first longest run of two or more zero
groups, and shows an address under `::ffff:0:0/96` with the IPv4 address it stands for.
-/

namespace Multicast

structure IPv6 where
  groups : Vector UInt16 8
  deriving DecidableEq

namespace IPv6

def unspecified : IPv6 := ⟨Vector.replicate 8 0⟩

def ofList? (groups : List UInt16) : Option IPv6 :=
  if h : groups.length = 8 then some ⟨⟨groups.toArray, by simpa using h⟩⟩ else none

def octets (addr : IPv6) : Vector UInt8 16 := Vector.ofFn fun i =>
  let group := addr.groups[i.val / 2]
  if i.val % 2 = 0 then (group >>> 8).toUInt8 else group.toUInt8

/-- Groups live in ff00::/8. -/
def isMulticast (addr : IPv6) : Bool := addr.groups[0] >>> 8 == 0xff

def groupsOfIPv4 (addr : IPv4) : List UInt16 :=
  [addr.a.toUInt16 <<< 8 ||| addr.b.toUInt16, addr.c.toUInt16 <<< 8 ||| addr.d.toUInt16]

/-- The IPv4 address that an address under `::ffff:0:0/96` stands for. -/
def mapped? (addr : IPv6) : Option IPv4 :=
  match addr.groups.toList with
  | [0, 0, 0, 0, 0, 0xffff, high, low] =>
    some ⟨(high >>> 8).toUInt8, high.toUInt8, (low >>> 8).toUInt8, low.toUInt8⟩
  | _ => none

/-- Start and length of the longest run of zero groups, the first of the longest. -/
def longestZeroRun : List UInt16 → Nat × Nat
  | [] => (0, 0)
  | group :: rest =>
    let here := ((group :: rest).takeWhile (· == 0)).length
    let later := longestZeroRun rest
    if later.2 ≤ here then (0, here) else (later.1 + 1, later.2)

def groupsChars (groups : List UInt16) : List Char :=
  [':'].intercalate (groups.map fun group => Nat.toDigits 16 group.toNat)

def toChars (addr : IPv6) : List Char :=
  match addr.mapped? with
  | some inner => "::ffff:".toList ++ inner.toChars
  | none =>
    let groups := addr.groups.toList
    let run := longestZeroRun groups
    if 1 < run.2 then
      groupsChars (groups.take run.1) ++ [':', ':'] ++ groupsChars (groups.drop (run.1 + run.2))
    else groupsChars groups

def text (addr : IPv6) : String := String.ofList addr.toChars

def cutAtGap? : List Char → Option (List Char × List Char)
  | [] => none
  | ':' :: ':' :: rest => some ([], rest)
  | c :: rest => (cutAtGap? rest).map fun cut => (c :: cut.1, cut.2)

/-- Reads one to four hexadecimal digits. -/
def group? (digits : List Char) : Option UInt16 :=
  if digits.length ≤ 4 then (Numeral.read? 16 digits).map UInt16.ofNat else none

/-- Reads the fields between colons; the last one may be an IPv4 address, which fills two groups. -/
def ofFields? : List (List Char) → Option (List UInt16)
  | [] => some []
  | [last] =>
    match IPv4.ofChars? last with
    | some inner => some (groupsOfIPv4 inner)
    | none => (group? last).map fun group => [group]
  | field :: rest =>
    match group? field with
    | some group => (ofFields? rest).map fun groups => group :: groups
    | none => none

def sideFields : List Char → List (List Char)
  | [] => []
  | cs => cs.splitOn ':'

/-- Reads eight groups, or fewer around one gap that stands for at least one zero group. -/
def ofChars? (cs : List Char) : Option IPv6 :=
  match cutAtGap? cs with
  | none => (ofFields? (cs.splitOn ':')).bind ofList?
  | some (front, back) =>
    match (sideFields front).mapM group?, ofFields? (sideFields back) with
    | some head, some tail =>
      if head.length + tail.length < 8 then
        ofList? (head ++ List.replicate (8 - head.length - tail.length) 0 ++ tail)
      else none
    | _, _ => none

end IPv6

end Multicast
