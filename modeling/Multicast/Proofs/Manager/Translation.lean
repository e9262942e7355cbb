import Multicast.Manager
import Multicast.Proofs.Channel.Registration
import Multicast.Proofs.Config
import Multicast.Proofs.Outbound

/-!
# Routes built from entries

Entries name interfaces, and routes name slots. Where each recorded slot is registered for the
interface it is recorded on, a route that is built from a valid entry says of the interfaces what
the entry says of their names. No two interfaces share a slot then, since the kernel has one
interface for each slot; so traffic does not leave by where it came from.
-/

namespace Multicast

variable {F : Family}

theorem Family.narrow?_eq_some_iff {address : Address} {addr : F.Addr} :
    F.narrow? address = some addr ↔ address = widen addr := by
  cases F <;> cases address <;> simp [narrow?, widen]

theorem Family.isUnspecified_widen (addr : F.Addr) :
    (widen addr).isUnspecified = true ↔ addr = F.unspecified := by
  cases F <;> simp [widen, Address.isUnspecified, unspecified]

namespace RouteEntry

/-! ### What a route has to say -/

/-- The route says of the interfaces in the table, by the slots that they are registered for, what
the entry says of their names. Of interfaces with one name, the first is meant. -/
structure Realizes (entry : RouteEntry) (defaultTtl : UInt8) (table : InterfaceTable)
    (registered : List (SlotIndex × UInt32)) (route : Route F) : Prop where
  group : entry.group.address = Family.widen route.group
  isWildcard_iff : route.isWildcard = true ↔ entry.source = .any
  sender : ∀ addr, entry.source = .host addr → route.sender.map Family.widen = some addr
  inbound : ∃ ifindex, table.ifindexOf? entry.inbound = some ifindex ∧
    registered.lookup route.inbound = some ifindex
  outbound : ∀ slot, Family.Outbound.contains route.outbound slot = true →
    ∃ name ∈ entry.outbound, ∃ ifindex, table.ifindexOf? name = some ifindex ∧
      registered.lookup slot = some ifindex
  outbound_complete : ∀ name ∈ entry.outbound, ∃ slot,
    Family.Outbound.contains route.outbound slot = true ∧ ∃ ifindex,
      table.ifindexOf? name = some ifindex ∧ registered.lookup slot = some ifindex
  isEmpty_outbound : Family.Outbound.isEmpty route.outbound = false
  not_back : Family.Outbound.contains route.outbound route.inbound = false
  ttl : ∀ slot, Family.Outbound.contains route.outbound slot = true →
    Family.Outbound.Carries route.outbound slot (entry.ttlOr defaultTtl)

/-! ### Building a route -/

theorem slotOf_eq_ok_iff {interfaces : InterfaceTable} {name : String} {slot : SlotIndex} :
    slotOf F interfaces name = .ok slot ↔
      ∃ iface, interfaces.findByName? name = some iface ∧ F.slotOf iface = some slot := by
  cases hfind : interfaces.findByName? name with
  | none => simp [slotOf, hfind]
  | some iface => cases hslot : F.slotOf iface <;> simp [slotOf, hfind, hslot]

theorem toRoute_eq_ok_iff {entry : RouteEntry} {interfaces : InterfaceTable} {defaultTtl : UInt8}
    {route : Route F} :
    entry.toRoute F interfaces defaultTtl = .ok route ↔
      entry.narrow F entry.group.address = .ok route.group ∧
        entry.senderOf F = .ok route.sender ∧
        slotOf F interfaces entry.inbound = .ok route.inbound ∧
        ∃ slots, entry.outbound.mapM (slotOf F interfaces) = .ok slots ∧
          route.outbound = Family.Outbound.ofSlots slots (entry.ttlOr defaultTtl) := by
  simp only [toRoute, bind_eq_ok_iff, pure, Except.pure, Except.ok.injEq, Family.Outbound.ofSlots]
  constructor
  · rintro ⟨group, hgroup, sender, hsender, inbound, hinbound, slots, hslots, rfl⟩
    exact ⟨hgroup, hsender, hinbound, slots, hslots, rfl⟩
  · rintro ⟨hgroup, hsender, hinbound, slots, hslots, houtbound⟩
    exact ⟨_, hgroup, _, hsender, _, hinbound, slots, hslots, by rw [← houtbound]⟩

theorem narrow_eq_ok_iff {entry : RouteEntry} {address : Address} {addr : F.Addr} :
    entry.narrow F address = .ok addr ↔ address = Family.widen addr := by
  rw [← Family.narrow?_eq_some_iff]
  cases hnarrow : F.narrow? address <;> simp [narrow, hnarrow]

variable {entry : RouteEntry} {interfaces table : InterfaceTable}
  {registered : List (SlotIndex × UInt32)}

theorem lookup_of_slotOf (hserves : Channel.Serves F interfaces registered)
    (hsame : interfaces.identities = table.identities) {name : String} {slot : SlotIndex}
    (hslot : slotOf F interfaces name = .ok slot) :
    slot.toNat < slotCount ∧
      ∃ ifindex, table.ifindexOf? name = some ifindex ∧ registered.lookup slot = some ifindex := by
  obtain ⟨iface, hfind, hrecorded⟩ := slotOf_eq_ok_iff.mp hslot
  obtain ⟨hlt, hlookup⟩ :=
    hserves iface (InterfaceTable.mem_of_findByName? hfind).1 slot hrecorded
  refine ⟨hlt, iface.ifindex, ?_, hlookup⟩
  rw [← InterfaceTable.ifindexOf?_congr hsame, InterfaceTable.ifindexOf?, hfind, Option.map_some]

theorem name_eq_of_slotOf (hserves : Channel.Serves F interfaces registered)
    {name other : String} {slot : SlotIndex} (hslot : slotOf F interfaces name = .ok slot)
    (hother : slotOf F interfaces other = .ok slot) : name = other := by
  obtain ⟨iface, hfind, hrecorded⟩ := slotOf_eq_ok_iff.mp hslot
  obtain ⟨twin, htwin, hagain⟩ := slotOf_eq_ok_iff.mp hother
  obtain ⟨hmem, hname⟩ := InterfaceTable.mem_of_findByName? hfind
  obtain ⟨hmem', hname'⟩ := InterfaceTable.mem_of_findByName? htwin
  have hindex : iface.ifindex = twin.ifindex := by
    have hlookup := (hserves iface hmem slot hrecorded).2
    rwa [(hserves twin hmem' slot hagain).2, Option.some_inj, eq_comm] at hlookup
  rw [← hname, ← hname', InterfaceTable.eq_of_ifindex_eq hmem hmem' hindex]

theorem sender_of_senderOf {sender : Option F.Addr} (hsender : entry.senderOf F = .ok sender) :
    (entry.source = .any ∧ sender = none) ∨
      ∃ addr : F.Addr, entry.source = .host (Family.widen addr) ∧ sender = some addr := by
  cases hsource : entry.source with
  | any => exact .inl ⟨rfl, by simpa [senderOf, hsource, eq_comm] using hsender⟩
  | host address =>
      simp only [senderOf, hsource, map_eq_ok_iff, narrow_eq_ok_iff] at hsender
      obtain ⟨addr, rfl, rfl⟩ := hsender
      exact .inr ⟨addr, rfl, rfl⟩

/-- A route means what its entry says. -/
theorem realizes_of_toRoute {defaultTtl : UInt8} {route : Route F}
    (hserves : Channel.Serves F interfaces registered)
    (hsame : interfaces.identities = table.identities) (hvalid : entry.validate = .ok ())
    (hdefault : defaultTtl ≠ 0) (hspecified : entry.source.Specified)
    (hroute : entry.toRoute F interfaces defaultTtl = .ok route) :
    entry.Realizes defaultTtl table registered route := by
  obtain ⟨hgroup, hsender, hinbound, slots, hslots, houtbound⟩ := toRoute_eq_ok_iff.mp hroute
  obtain ⟨hnonempty, hnotIn, httl⟩ := of_validate_eq_ok hvalid
  obtain ⟨hnames, hall⟩ := exists_of_mapM_eq_ok hslots
  have hexists : ∀ slot ∈ slots, slot.toNat < slotCount := by
    intro slot hmem
    obtain ⟨name, -, hslot⟩ := hnames slot hmem
    exact (lookup_of_slotOf hserves hsame hslot).1
  have hcontains : ∀ slot, Family.Outbound.contains route.outbound slot = true ↔ slot ∈ slots := by
    rw [houtbound]
    exact Family.Outbound.contains_ofSlots hexists (ttlOr_pos hdefault httl)
  refine
    { group := narrow_eq_ok_iff.mp hgroup
      isWildcard_iff := ?_
      sender := ?_
      inbound := (lookup_of_slotOf hserves hsame hinbound).2
      outbound := ?_
      outbound_complete := ?_
      isEmpty_outbound := ?_
      not_back := ?_
      ttl := ?_ }
  · rcases sender_of_senderOf hsender with ⟨hany, hnone⟩ | ⟨addr, hhost, hsome⟩
    · simp [Route.isWildcard, Route.origin, hnone, hany]
    · have hne : addr ≠ F.unspecified := by
        rw [ne_eq, ← Family.isUnspecified_widen, hspecified _ (by rw [hhost]; rfl)]
        decide
      simp [Route.isWildcard, Route.origin, hsome, hhost, hne]
  · intro address haddress
    rcases sender_of_senderOf hsender with ⟨hany, -⟩ | ⟨addr, hhost, hsome⟩
    · simp [hany] at haddress
    · rw [hhost, Source.host.injEq] at haddress
      rw [hsome, Option.map_some, haddress]
  · intro slot hslot
    obtain ⟨name, hmem, hfound⟩ := hnames slot ((hcontains slot).mp hslot)
    exact ⟨name, hmem, (lookup_of_slotOf hserves hsame hfound).2⟩
  · intro name hmem
    obtain ⟨slot, hslot, hfound⟩ := hall name hmem
    exact ⟨slot, (hcontains slot).mpr hslot, (lookup_of_slotOf hserves hsame hfound).2⟩
  · obtain ⟨name, hmem⟩ := List.exists_mem_of_ne_nil _ hnonempty
    obtain ⟨slot, hslot, -⟩ := hall name hmem
    have hin : slot ∈ Family.Outbound.slots route.outbound :=
      List.mem_filter.mpr ⟨mem_slotIndices.mpr (hexists slot hslot), (hcontains slot).mpr hslot⟩
    rw [Family.Outbound.isEmpty, List.isEmpty_eq_false_iff]
    exact List.ne_nil_of_mem hin
  -- the slot that traffic arrives on cannot belong to a second name
  · rw [← Bool.not_eq_true, hcontains]
    intro hslot
    obtain ⟨name, hmem, hfound⟩ := hnames route.inbound hslot
    exact hnotIn (name_eq_of_slotOf hserves hinbound hfound ▸ hmem)
  · intro slot hslot
    rw [houtbound]
    exact Family.Outbound.carries_ofSlots hexists ((hcontains slot).mp hslot)

end RouteEntry

end Multicast
