import Multicast.Address.Source
import Multicast.Proofs.Address.IPv6
import Multicast.Proofs.Config

/-!
# Groups and sources are read as they are written

The text of a group, and of a source whose host is a specified address, reads as this group or
source. So reading what was read and written again changes nothing, and texts read alike if they are
written alike afterwards.
-/

namespace Multicast

namespace Address

theorem ofText?_text (addr : Address) : ofText? addr.text = some addr := by
  rw [ofText?, text, String.toList_ofList, ofChars?]
  cases addr with
  | v4 addr => rw [toChars, IPv4.ofChars?_toChars]
  | v6 addr =>
      rw [toChars, IPv4.ofChars?_eq_none_of_colon addr.written_toChars.colon_mem,
        IPv6.ofChars?_toChars, Option.map_some]

theorem isUnspecified_iff (addr : Address) :
    addr.isUnspecified = true ↔ ∀ octet ∈ addr.octets, octet = 0 := by
  have hlength : addr.octets.length = if addr.isIPv4 then 4 else 16 := by
    cases addr <;> simp [octets, isIPv4]
  rw [← List.eq_replicate_length, hlength]
  cases addr with
  | v4 addr =>
      have hzero : (v4 IPv4.unspecified).octets = List.replicate 4 0 := rfl
      rw [isUnspecified, beq_iff_eq, ← v4.injEq, ← octets_injective.eq_iff, hzero]
      rfl
  | v6 addr =>
      have hzero : (v6 IPv6.unspecified).octets = List.replicate 16 0 := rfl
      rw [isUnspecified, beq_iff_eq, ← v6.injEq, ← octets_injective.eq_iff, hzero]
      rfl

/-- The addresses of 224.0.0.0/4 and of ff00::/8, by their first octet. -/
def InGroupRange : Address → Prop
  | v4 addr => 224 ≤ addr.a ∧ addr.a ≤ 239
  | v6 addr => addr.octets.toList.head? = some 255

theorem isMulticast_iff (addr : Address) : addr.isMulticast = true ↔ addr.InGroupRange := by
  cases addr with
  | v4 addr =>
      have hlast : addr.a < 240 ↔ addr.a ≤ 239 := by
        rw [UInt8.lt_iff_toNat_lt, UInt8.le_iff_toNat_le]
        exact Nat.lt_succ_iff
      simp [isMulticast, IPv4.isMulticast, InGroupRange, hlast]
  | v6 addr =>
      have hfirst : addr.octets.toList.head? = some (addr.groups[0] >>> 8).toUInt8 := by
        simp [IPv6.octets, Vector.toList_ofFn]
      rw [InGroupRange, hfirst, Option.some_inj, isMulticast, IPv6.isMulticast, beq_iff_eq,
        ← UInt16.toNat_inj, ← UInt8.toNat_inj]
      have hgroup := addr.groups[0].toNat_lt
      simp [Nat.shiftRight_eq_div_pow]
      omega

end Address

/-- Values that are legal are read as they are written, and nothing else is read. -/
structure RoundTrip {Value : Type} (ofText : String → Except InputError Value)
    (text : Value → String) (Legal : Value → Prop) : Prop where
  legal : ∀ {written value}, ofText written = .ok value → Legal value
  ofText_text : ∀ value, ofText (text value) = .ok value ↔ Legal value
  again : ∀ {written value}, ofText written = .ok value → ofText (text value) = .ok value
  same_iff : ∀ {written other value value'}, ofText written = .ok value →
    ofText other = .ok value' → (value = value' ↔ text value = text value')

theorem roundTrip_of_legal {Value : Type} {ofText : String → Except InputError Value}
    {text : Value → String} {Legal : Value → Prop}
    (hlegal : ∀ {written value}, ofText written = .ok value → Legal value)
    (htext : ∀ value, ofText (text value) = .ok value ↔ Legal value) :
    RoundTrip ofText text Legal := by
  have hagain : ∀ {written value}, ofText written = .ok value → ofText (text value) = .ok value :=
    fun hread => (htext _).mpr (hlegal hread)
  refine ⟨hlegal, htext, hagain, ?_⟩
  intro written other value value' hread hother
  constructor
  · rintro rfl
    rfl
  · intro heq
    have hvalue := hagain hread
    rw [heq, hagain hother] at hvalue
    exact (Except.ok.inj hvalue).symm

namespace Group

theorem exists_address_iff (addr : Address) :
    (∃ group : Group, group.address = addr) ↔ addr.InGroupRange := by
  rw [← addr.isMulticast_iff]
  constructor
  · rintro ⟨group, rfl⟩
    exact group.isMulticast
  · intro hmulticast
    exact ⟨⟨addr, hmulticast⟩, rfl⟩

theorem ofText_text (group : Group) : ofText group.text = .ok group := by
  simp only [ofText, text, Address.ofText?_text, ofAddress, group.isMulticast, ↓reduceDIte]

theorem roundTrip : RoundTrip ofText text fun group => group.address.InGroupRange := by
  have hrange (group : Group) : group.address.InGroupRange :=
    (exists_address_iff _).mp ⟨group, rfl⟩
  apply roundTrip_of_legal
  · intro _ group _
    exact hrange group
  · intro group
    exact iff_of_true (ofText_text group) (hrange group)

end Group

namespace Source

theorem specified_iff (source : Source) :
    source.Specified ↔ ∀ addr ∈ source.host?, ∃ octet ∈ addr.octets, octet ≠ 0 := by
  refine forall₂_congr fun addr _ => ?_
  rw [← Bool.not_eq_true, addr.isUnspecified_iff]
  push Not
  rfl

theorem ofText_text (source : Source) : ofText source.text = .ok source ↔ source.Specified := by
  cases source with
  | any => exact iff_of_true rfl (by simp [Specified, host?])
  | host addr =>
      have hstar : addr.text ≠ "*" := by
        intro hstar
        have hread := addr.ofText?_text
        rw [hstar] at hread
        exact absurd hread (by simp [show Address.ofText? "*" = none from rfl])
      simp only [ofText, text, if_neg hstar, Address.ofText?_text, ofAddress]
      cases hunspecified : addr.isUnspecified <;> simp [Specified, host?, hunspecified]

theorem roundTrip :
    RoundTrip ofText text fun source =>
      ∀ addr ∈ source.host?, ∃ octet ∈ addr.octets, octet ≠ 0 := by
  apply roundTrip_of_legal
  · intro written source hread
    exact (specified_iff source).mp (specified_ofText hread)
  · intro source
    rw [ofText_text, specified_iff]

end Source

/-- **Nothing is lost in the text of a group or source:** legal values are what their texts read as,
nothing else is read, and two texts mean the same just when what they are read as is written the
same. -/
theorem text_lossless :
    (∀ addr : Address, (∃ group : Group, group.address = addr) ↔ addr.InGroupRange) ∧
      RoundTrip Group.ofText Group.text (fun group => group.address.InGroupRange) ∧
      RoundTrip Source.ofText Source.text
        (fun source => ∀ addr ∈ source.host?, ∃ octet ∈ addr.octets, octet ≠ 0) ∧
      Source.any.text = "*" :=
  ⟨Group.exists_address_iff, Group.roundTrip, Source.roundTrip, rfl⟩

theorem text_lossless_gap : ∃ group : Group,
    Group.ofText "FF0E:0::1:0002" = .ok group ∧ Group.ofText "ff0e::0:1:2" = .ok group ∧
      group.text = "ff0e::1:2" ∧ Group.ofText group.text = .ok group := by
  have hread : Group.ofText "FF0E:0::1:0002" =
      .ok ⟨.v6 ⟨#v[0xff0e, 0, 0, 0, 0, 0, 1, 2]⟩, by decide⟩ := by decide
  exact ⟨_, hread, by decide, by decide, text_lossless.2.1.again hread⟩

end Multicast
