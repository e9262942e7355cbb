import Mathlib.Data.List.OfFn
import Multicast.Address

/-!
# Addresses and their octets

An address is what its octets are read as, so different addresses have different octets.
-/

namespace Multicast

/-! ### Two octets in a group -/

def joined (high low : UInt8) : UInt16 := high.toUInt16 <<< 8 ||| low.toUInt16

theorem toNat_joined (high low : UInt8) :
    (joined high low).toNat = high.toNat * 256 + low.toNat := by
  have hhigh := high.toNat_lt
  have hlow := low.toNat_lt
  have hshift : (high.toUInt16 <<< 8).toNat = high.toNat <<< 8 := by
    have hmod : high.toNat <<< 8 % 65536 = high.toNat <<< 8 := by omega
    simpa using hmod
  rw [joined, UInt16.toNat_or, hshift, UInt8.toNat_toUInt16,
    ← Nat.shiftLeft_add_eq_or_of_lt hlow, Nat.shiftLeft_eq]

theorem joined_split (group : UInt16) : joined (group >>> 8).toUInt8 group.toUInt8 = group := by
  rw [← UInt16.toNat_inj, toNat_joined]
  have hgroup := group.toNat_lt
  simp [Nat.shiftRight_eq_div_pow]
  omega

theorem high_joined (high low : UInt8) : (joined high low >>> 8).toUInt8 = high := by
  have hlow := low.toNat_lt
  have hhigh := high.toNat_lt
  rw [← UInt8.toNat_inj]
  simp [Nat.shiftRight_eq_div_pow, toNat_joined]
  omega

theorem low_joined (high low : UInt8) : (joined high low).toUInt8 = low := by
  have hlow := low.toNat_lt
  rw [← UInt8.toNat_inj]
  simp [toNat_joined]

namespace IPv6

theorem ofList?_toList (addr : IPv6) : ofList? addr.groups.toList = some addr := by
  simp only [ofList?, Vector.length_toList, ↓reduceDIte, Option.some.injEq]
  rfl

theorem toList_octets (addr : IPv6) :
    addr.octets.toList =
      addr.groups.toList.flatMap fun group : UInt16 => [(group >>> 8).toUInt8, group.toUInt8] := by
  obtain ⟨⟨⟨groups⟩, hsize⟩⟩ := addr
  match groups, hsize with
  | [_, _, _, _, _, _, _, _], _ =>
      rw [octets, Vector.toList_ofFn]
      simp [List.ofFn_succ]

end IPv6

namespace Address

theorem pairs_flatMap (groups : List UInt16) :
    ofOctets?.pairs (groups.flatMap fun group : UInt16 => [(group >>> 8).toUInt8, group.toUInt8]) =
      groups := by
  induction groups with
  | nil => rfl
  | cons group rest ih =>
      simp only [List.flatMap_cons, List.cons_append, List.nil_append]
      rw [ofOctets?.pairs, ih, ← joined, joined_split]

theorem ofOctets?_octets (addr : Address) : ofOctets? addr.octets = some addr := by
  cases addr with
  | v4 addr => rfl
  | v6 addr =>
      rw [octets, ofOctets?]
      · rw [IPv6.toList_octets, pairs_flatMap, IPv6.ofList?_toList, Option.map_some]
      -- four octets would be an IPv4 address
      · intro a b c d hfour
        have hlength := congrArg List.length hfour
        simp at hlength

theorem octets_injective : Function.Injective octets := by
  intro addr other heq
  apply Option.some_injective
  rw [← ofOctets?_octets, ← ofOctets?_octets, heq]

end Address

end Multicast
