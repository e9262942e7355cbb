import Multicast.Proofs.Address.Octets
import Multicast.Proofs.Cache
import Multicast.Proofs.Kernel.IfSet
import Multicast.Proofs.Outbound.Settings

/-!
# What the kernel is handed says which route is meant

The structure that adds a route tells the route, but for how any sender is spelled; the one that
deletes a route tells origin and group, by which the cache is searched. An IPv4 address is a word
there, and what word it is depends on the order in which a machine keeps its octets; the octets
can be told from the word in either order.
-/

namespace Multicast

/-! ### Words -/

inductive ByteOrder where
  | little
  | big

namespace ByteOrder

def lowestFirst (order : ByteOrder) (octets : Vector UInt8 4) : Vector UInt8 4 :=
  match order with
  | little => octets
  | big => octets.reverse

theorem lowestFirst_lowestFirst (order : ByteOrder) (octets : Vector UInt8 4) :
    order.lowestFirst (order.lowestFirst octets) = octets := by
  cases order with
  | little => rfl
  | big => exact Vector.reverse_reverse octets

def word (order : ByteOrder) (octets : Vector UInt8 4) : UInt32 :=
  UInt32.ofNat <|
    (order.lowestFirst octets).toList.foldr (fun octet above => octet.toNat + 256 * above) 0

def octets (order : ByteOrder) (word : UInt32) : Vector UInt8 4 :=
  order.lowestFirst (Vector.ofFn fun i => UInt8.ofNat (word.toNat >>> (8 * i.val)))

theorem octets_word (order : ByteOrder) (octets : Vector UInt8 4) :
    order.octets (order.word octets) = octets := by
  rw [← order.lowestFirst_lowestFirst octets, ByteOrder.octets]
  congr 1
  rw [word, lowestFirst_lowestFirst]
  generalize order.lowestFirst octets = digits
  have h0 := digits[0].toNat_lt
  have h1 := digits[1].toNat_lt
  have h2 := digits[2].toNat_lt
  have h3 := digits[3].toNat_lt
  have hdigits : digits.toList = [digits[0], digits[1], digits[2], digits[3]] := by
    obtain ⟨⟨list⟩, hsize⟩ := digits
    match list, hsize with
    | [_, _, _, _], _ => rfl
  apply Vector.ext
  intro i hi
  rw [← UInt8.toNat_inj, Vector.getElem_ofFn, UInt8.toNat_ofNat', UInt32.toNat_ofNat', hdigits,
    Nat.shiftRight_eq_div_pow]
  simp only [List.foldr_cons, List.foldr_nil]
  match i, hi with
  | 0, _ => omega
  | 1, _ => omega
  | 2, _ => omega
  | 3, _ => omega

theorem word_injective (order : ByteOrder) : Function.Injective order.word :=
  Function.LeftInverse.injective order.octets_word

end ByteOrder

/-- The structure for an IPv4 route as a machine keeps it, with its addresses as words. -/
structure VifRouteWords where
  origin : UInt32
  group : UInt32
  parent : SlotIndex
  ttls : Vector UInt8 slotCount
  packetCount : UInt32
  byteCount : UInt32
  wrongInterface : UInt32
  expire : UInt32
  deriving DecidableEq

namespace Family

variable {F : Family}

abbrev RouteWords : Family → Type
  | ipv4 => VifRouteWords
  | ipv6 => MifRouteControl

def RouteControl.words (order : ByteOrder) : {F : Family} → F.RouteControl → F.RouteWords
  | ipv4, (control : VifRouteControl) =>
    { origin := order.word control.origin
      group := order.word control.group
      parent := control.parent
      ttls := control.ttls
      packetCount := control.packetCount
      byteCount := control.byteCount
      wrongInterface := control.wrongInterface
      expire := control.expire : VifRouteWords }
  | ipv6, control => control

instance decEqRouteWords : (F : Family) → DecidableEq F.RouteWords
  | ipv4 => inferInstanceAs (DecidableEq VifRouteWords)
  | ipv6 => inferInstanceAs (DecidableEq MifRouteControl)

theorem RouteControl.words_inj (order : ByteOrder) {control other : F.RouteControl} :
    words order control = words order other ↔ control = other := by
  cases F with
  | ipv4 =>
      obtain ⟨origin, group, parent, ttls, packets, octets, wrong, expire⟩ := control
      obtain ⟨origin', group', parent', ttls', packets', octets', wrong', expire'⟩ := other
      simp only [words, VifRouteWords.mk.injEq, VifRouteControl.mk.injEq,
        order.word_injective.eq_iff]
  | ipv6 => exact Iff.rfl

end Family

/-! ### Reading back -/

/-- What a route says can be read back from the structure that adds it. -/
structure VifRouteWords.Tells (order : ByteOrder) (stored : VifRouteWords) (route : Route .ipv4) :
    Prop where
  origin : order.octets stored.origin = IPv4.octets route.origin
  group : order.octets stored.group = IPv4.octets route.group
  parent : stored.parent = route.inbound
  ttls : ∀ slot (hlt : slot < 32),
    stored.ttls[slot] = TtlVector.ttl route.outbound (UInt16.ofNat slot)

structure MifRouteControl.Tells (stored : MifRouteControl) (route : Route .ipv6) : Prop where
  origin : stored.origin.octets = IPv6.octets route.origin
  group : stored.group.octets = IPv6.octets route.group
  parent : stored.parent = route.inbound
  interfaces : ∀ n, stored.interfaces.contains n = true ↔
    ∃ slot : SlotIndex, slot.toNat = n ∧ MifSet.contains route.outbound slot = true
  upperWords : ∀ word (_ : 1 ≤ word) (hlt : word < 8), stored.interfaces.words[word] = 0#32

def Family.RouteWords.Tells (order : ByteOrder) :
    {F : Family} → F.RouteWords → Route F → Prop
  | ipv4, stored, route => VifRouteWords.Tells order stored route
  | ipv6, stored, route => MifRouteControl.Tells stored route

theorem IPv4.octets_injective : Function.Injective IPv4.octets := by
  intro addr other heq
  have heither : (Address.v4 addr).octets = (Address.v4 other).octets :=
    congrArg Vector.toList heq
  exact Address.v4.inj (Address.octets_injective heither)

theorem IPv6.octets_injective : Function.Injective IPv6.octets := by
  intro addr other heq
  have heither : (Address.v6 addr).octets = (Address.v6 other).octets :=
    congrArg Vector.toList heq
  exact Address.v6.inj (Address.octets_injective heither)

theorem TtlVector.ttl_ofNat (out : TtlVector) {slot : Nat} (hlt : slot < slotCount) :
    out.ttl (UInt16.ofNat slot) = out.ttls[slot] := by
  simp [ttl, toNat_slot hlt, hlt]

theorem TtlVector.eq_of_ttl {out other : TtlVector}
    (hsame : ∀ slot < slotCount, out.ttl (UInt16.ofNat slot) = other.ttl (UInt16.ofNat slot)) :
    out = other := by
  have httls : out.ttls = other.ttls := by
    apply Vector.ext
    intro slot hlt
    rw [← ttl_ofNat out hlt, hsame slot hlt, ttl_ofNat other hlt]
  cases out
  cases other
  rw [TtlVector.mk.injEq]
  exact httls

theorem MifSet.eq_of_contains {out other : MifSet}
    (hsame : ∀ slot, out.contains slot = other.contains slot) : out = other := by
  have hbits : out.bits = other.bits := by
    apply BitVec.eq_of_getLsbD_eq
    intro slot hlt
    simpa [contains, toNat_slot hlt] using hsame (UInt16.ofNat slot)
  cases out
  cases other
  rw [MifSet.mk.injEq]
  exact hbits

theorem VifRouteWords.Tells.unique {order : ByteOrder} {stored : VifRouteWords}
    {route other : Route .ipv4} (hroute : stored.Tells order route)
    (hother : stored.Tells order other) :
    route.origin = other.origin ∧ route.group = other.group ∧ route.inbound = other.inbound ∧
      route.outbound = other.outbound := by
  refine ⟨?_, ?_, hroute.parent.symm.trans hother.parent, ?_⟩
  · exact IPv4.octets_injective (hroute.origin.symm.trans hother.origin)
  · exact IPv4.octets_injective (hroute.group.symm.trans hother.group)
  · apply TtlVector.eq_of_ttl
    intro slot hlt
    exact (hroute.ttls slot hlt).symm.trans (hother.ttls slot hlt)

theorem MifRouteControl.Tells.unique {stored : MifRouteControl} {route other : Route .ipv6}
    (hroute : stored.Tells route) (hother : stored.Tells other) :
    route.origin = other.origin ∧ route.group = other.group ∧ route.inbound = other.inbound ∧
      route.outbound = other.outbound := by
  refine ⟨?_, ?_, hroute.parent.symm.trans hother.parent, ?_⟩
  · exact IPv6.octets_injective (hroute.origin.symm.trans hother.origin)
  · exact IPv6.octets_injective (hroute.group.symm.trans hother.group)
  · apply MifSet.eq_of_contains
    intro slot
    have hiff := (hroute.interfaces slot.toNat).symm.trans (hother.interfaces slot.toNat)
    simpa [UInt16.toNat_inj] using hiff

namespace Route

variable {F : Family} {left right : Route F}

theorem contains_interfaces (route : Route .ipv6) (n : Nat) :
    (encodeAdd route : MifRouteControl).interfaces.contains n = true ↔
      ∃ slot : SlotIndex, slot.toNat = n ∧ MifSet.contains route.outbound slot = true := by
  simp only [encodeAdd, IfSet.contains_ofList, decide_eq_true_eq, List.mem_map,
    Family.Outbound.mem_slots_iff]
  constructor
  · rintro ⟨⟨slot, hcontains, rfl⟩, -⟩
    exact ⟨slot, rfl, hcontains⟩
  · rintro ⟨slot, rfl, hcontains⟩
    have hlt : slot.toNat < slotCount := Family.Outbound.lt_of_contains (F := .ipv6) hcontains
    exact ⟨⟨slot, hcontains, rfl⟩, Nat.lt_trans hlt (by decide)⟩

theorem encodeAdd_tells (order : ByteOrder) (route : Route F) :
    Family.RouteWords.Tells order (Family.RouteControl.words order route.encodeAdd) route := by
  cases F with
  | ipv4 =>
      exact
        { origin := order.octets_word _
          group := order.octets_word _
          parent := rfl
          ttls := fun slot hlt => (TtlVector.ttl_ofNat route.outbound hlt).symm }
  | ipv6 =>
      refine
        { origin := rfl
          group := rfl
          parent := rfl
          interfaces := contains_interfaces route
          upperWords := ?_ }
      intro word hone hlt
      refine IfSet.words_eq_zero _ hlt fun bit _ => ?_
      -- a number there is too large for a slot
      rw [← Bool.not_eq_true]
      intro hcontains
      obtain ⟨slot, hslot, hin⟩ := (contains_interfaces route _).mp hcontains
      have hsmall : slot.toNat < 32 := Family.Outbound.lt_of_contains (F := .ipv6) hin
      omega

theorem encodeAdd_eq_iff :
    left.encodeAdd = right.encodeAdd ↔
      left.origin = right.origin ∧ left.group = right.group ∧ left.inbound = right.inbound ∧
        left.outbound = right.outbound := by
  constructor
  · intro heq
    have hleft := left.encodeAdd_tells .little
    have hright := right.encodeAdd_tells .little
    rw [← heq] at hright
    cases F with
    | ipv4 => exact VifRouteWords.Tells.unique hleft hright
    | ipv6 => exact MifRouteControl.Tells.unique hleft hright
  · rintro ⟨horigin, hgroup, hinbound, houtbound⟩
    cases F with
    | ipv4 => simp only [encodeAdd, horigin, hgroup, hinbound, houtbound]
    | ipv6 => simp only [encodeAdd, horigin, hgroup, hinbound, houtbound]

theorem encodeDel_eq_iff :
    left.encodeDel = right.encodeDel ↔ left.origin = right.origin ∧ left.group = right.group := by
  constructor
  · intro heq
    cases F with
    | ipv4 =>
        simp only [encodeDel, VifRouteControl.mk.injEq, IPv4.octets_injective.eq_iff] at heq
        exact ⟨heq.1, heq.2.1⟩
    | ipv6 =>
        simp only [encodeDel, MifRouteControl.mk.injEq, IPv6.socketAddress, SocketAddress.mk.injEq,
          IPv6.octets_injective.eq_iff] at heq
        exact ⟨heq.1.2.2.2.1, heq.2.1.2.2.2.1⟩
  · rintro ⟨horigin, hgroup⟩
    cases F with
    | ipv4 => simp only [encodeDel, horigin, hgroup]
    | ipv6 => simp only [encodeDel, horigin, hgroup]

end Route

/-! ### The key of the cache -/

namespace SimulatedKernel

variable {F : Family} {left right route : Route F}

theorem sameEntry_iff_encodeDel :
    sameEntry left right = true ↔ right.encodeDel = left.encodeDel := by
  rw [sameEntry_iff, Route.encodeDel_eq_iff, Route.cacheKey, Route.cacheKey, Prod.mk.injEq]

theorem store_eq (route : Route F) (entries : List (Route F)) :
    store route entries =
      match entries.findIdx? (sameEntry route) with
      | some place => entries.set place route
      | none => entries ++ [route] := by
  induction entries with
  | nil => rfl
  | cons head rest ih =>
      rw [store, List.findIdx?_cons]
      cases hsame : sameEntry route head with
      | true => rfl
      | false =>
          simp only [Bool.false_eq_true, if_false, ih]
          cases rest.findIdx? (sameEntry route) <;> rfl

end SimulatedKernel

/-- **Nothing is lost on the way to the kernel:** in either byte order, the structure that adds a
route tells all of it, and the one that deletes it tells just the key of the cache. -/
theorem Route.encode_lossless {F : Family} (order : ByteOrder) (left right : Route F)
    (kernel : SimulatedKernel F) :
    let stored := Family.RouteControl.words (F := F) order
    (stored left.encodeAdd = stored right.encodeAdd ↔
      left.origin = right.origin ∧ left.group = right.group ∧ left.inbound = right.inbound ∧
        left.outbound = right.outbound) ∧
    Family.RouteWords.Tells order (stored left.encodeAdd) left ∧
    (stored left.encodeDel = stored right.encodeDel ↔
      left.origin = right.origin ∧ left.group = right.group) ∧
    (kernel.delRoute left).2.cache =
      (kernel.cache.filter fun entry => stored entry.encodeDel ≠ stored left.encodeDel) ∧
    (kernel.addRoute left).2.cache =
      if kernel.faults.addRoute = none then
        match kernel.cache.findIdx? (fun entry => stored entry.encodeDel = stored left.encodeDel)
        with
        | some place => kernel.cache.set place left
        | none => kernel.cache ++ [left]
      else kernel.cache := by
  intro stored
  have hkey : ∀ entry : Route F, SimulatedKernel.sameEntry left entry =
      decide (stored entry.encodeDel = stored left.encodeDel) := by
    intro entry
    rw [Bool.eq_iff_iff, SimulatedKernel.sameEntry_iff_encodeDel, decide_eq_true_eq,
      Family.RouteControl.words_inj]
  refine ⟨?_, left.encodeAdd_tells order, ?_, ?_, ?_⟩
  · rw [Family.RouteControl.words_inj, encodeAdd_eq_iff]
  · rw [Family.RouteControl.words_inj, encodeDel_eq_iff]
  · rw [SimulatedKernel.cache_delRoute]
    refine List.filter_congr fun entry _ => ?_
    rw [hkey, decide_not]
  · rw [SimulatedKernel.cache_addRoute, SimulatedKernel.store_eq, funext hkey]

end Multicast
