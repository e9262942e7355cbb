import Multicast.Interface.Samples
import Multicast.Proofs.Manager.Translation
import Multicast.Proofs.Outbound.Settings

/-!
# When an entry gives a route, and which

An entry gives a route of a family exactly if its addresses are of the family and every name in it
leads to a slot; the first thing that is missing is the error. The route then says what the entry
says, with slots in place of names.
-/

namespace Multicast

variable {F : Family}

def Address.family : Address → Family
  | v4 _ => .ipv4
  | v6 _ => .ipv6

theorem Address.family_eq_iff {address : Address} :
    address.family = F ↔ ∃ addr : F.Addr, address = Family.widen addr := by
  cases F <;> cases address <;> simp [family, Family.widen]

theorem Address.family_eq_of_isIPv4_eq {address other : Address}
    (hsame : address.isIPv4 = other.isIPv4) : address.family = other.family := by
  cases address <;> cases other <;> first | rfl | cases hsame

namespace InterfaceTable

variable {table : InterfaceTable} {name : String}

def IsFirst (table : InterfaceTable) (name : String) (iface : Interface) : Prop :=
  ∃ before after, table.entries = before ++ iface :: after ∧ iface.name = name ∧
    ∀ other ∈ before, other.name ≠ name

theorem findByName?_eq_some_iff {iface : Interface} :
    table.findByName? name = some iface ↔ table.IsFirst name iface := by
  simp only [findByName?, List.find?_eq_some_iff_append, IsFirst, beq_iff_eq, Bool.not_eq_true',
    beq_eq_false_iff_ne]
  constructor
  · rintro ⟨hname, before, after, hentries, hbefore⟩
    exact ⟨before, after, hentries, hname, hbefore⟩
  · rintro ⟨before, after, hentries, hname, hbefore⟩
    exact ⟨hname, before, after, hentries, hbefore⟩

theorem findByName?_eq_none_iff :
    table.findByName? name = none ↔ ∀ iface ∈ table.entries, iface.name ≠ name := by
  simp [findByName?]

theorem IsFirst.mem {iface : Interface} (hfirst : table.IsFirst name iface) :
    iface ∈ table.entries := by
  obtain ⟨before, after, hentries, -⟩ := hfirst
  simp [hentries]

end InterfaceTable

namespace RouteEntry

variable {table : InterfaceTable} {entry : RouteEntry} {defaultTtl : UInt8}

/-! ### Names -/

/-- The first interface of the name has this slot. -/
def Leads (F : Family) (table : InterfaceTable) (name : String) (slot : SlotIndex) : Prop :=
  ∃ iface, table.IsFirst name iface ∧ F.slotOf iface = some slot

inductive NameFault (F : Family) (table : InterfaceTable) (name : String) : DaemonError → Prop
  | unknown (hnone : ∀ iface ∈ table.entries, iface.name ≠ name) :
      NameFault F table name (.unknownInterface name)
  | noSlot {iface : Interface} (hfirst : table.IsFirst name iface)
      (hslot : F.slotOf iface = none) :
      NameFault F table name (.noSlot name F.slotKind)

theorem slotOf_eq_ok_iff_leads {name : String} {slot : SlotIndex} :
    slotOf F table name = .ok slot ↔ Leads F table name slot := by
  simp only [slotOf_eq_ok_iff, InterfaceTable.findByName?_eq_some_iff, Leads]

theorem Leads.unique {name : String} {slot other : SlotIndex} (hslot : Leads F table name slot)
    (hother : Leads F table name other) : slot = other := by
  rw [← slotOf_eq_ok_iff_leads] at hslot hother
  exact Except.ok.inj (hslot.symm.trans hother)

theorem slotOf_eq_error_iff {name : String} {err : DaemonError} :
    slotOf F table name = .error err ↔ NameFault F table name err := by
  constructor
  · intro herr
    unfold slotOf at herr
    split at herr
    · cases herr
      exact .unknown (InterfaceTable.findByName?_eq_none_iff.mp ‹_›)
    · split at herr
      · cases herr
      · cases herr
        exact .noSlot (InterfaceTable.findByName?_eq_some_iff.mp ‹_›) ‹_›
  · rintro (hnone | ⟨hfirst, hslot⟩)
    · rw [slotOf, InterfaceTable.findByName?_eq_none_iff.mpr hnone]
    · simp only [slotOf, InterfaceTable.findByName?_eq_some_iff.mpr hfirst, hslot]

/-! ### Entries -/

/-- The entry has all that a route of the family needs. -/
structure Buildable (F : Family) (table : InterfaceTable) (entry : RouteEntry) : Prop where
  group : entry.group.address.family = F
  source : ∀ host, entry.source = .host host → host.family = F
  inbound : ∃ slot, Leads F table entry.inbound slot
  outbound : ∀ name ∈ entry.outbound, ∃ slot, Leads F table name slot

/-- The first thing that is wrong with an entry: its group, its source, then the names from left to
right. -/
inductive Fault (F : Family) (table : InterfaceTable) (entry : RouteEntry) : DaemonError → Prop
  | group (hgroup : entry.group.address.family ≠ F) :
      Fault F table entry (.configuration (entry.text ++ ": not an " ++ F.name ++ " route"))
  | source {host : Address} (hgroup : entry.group.address.family = F)
      (hsource : entry.source = .host host) (hhost : host.family ≠ F) :
      Fault F table entry (.configuration (entry.text ++ ": not an " ++ F.name ++ " route"))
  | name {passed rest : List String} {name : String} {err : DaemonError}
      (hgroup : entry.group.address.family = F)
      (hsource : ∀ host, entry.source = .host host → host.family = F)
      (hnames : entry.inbound :: entry.outbound = passed ++ name :: rest)
      (hpassed : ∀ earlier ∈ passed, ∃ slot, Leads F table earlier slot)
      (hname : NameFault F table name err) :
      Fault F table entry err

structure Describes (defaultTtl : UInt8) (table : InterfaceTable) (entry : RouteEntry)
    (route : Route F) : Prop where
  group : Family.widen route.group = entry.group.address
  sender : route.sender.map Family.widen = entry.source.host?
  inbound : Leads F table entry.inbound route.inbound
  outbound : ∀ slot, Family.Outbound.contains route.outbound slot = true ↔
    0 < entry.ttl.getD defaultTtl ∧ ∃ name ∈ entry.outbound, Leads F table name slot
  ttl : ∀ slot, Family.Outbound.contains route.outbound slot = true →
    Family.Outbound.Carries route.outbound slot (entry.ttl.getD defaultTtl)

theorem narrow_eq_error_iff {address : Address} {err : DaemonError} :
    entry.narrow F address = .error err ↔ address.family ≠ F ∧ err = entry.notOfFamily F := by
  cases F <;> cases address <;> simp [narrow, Family.narrow?, Address.family, eq_comm]

theorem exists_narrow_iff (entry : RouteEntry) {address : Address} :
    (∃ addr, entry.narrow F address = .ok addr) ↔ address.family = F := by
  simp only [narrow_eq_ok_iff, Address.family_eq_iff]

theorem senderOf_eq_error_iff {err : DaemonError} :
    entry.senderOf F = .error err ↔
      (∃ host, entry.source = .host host ∧ host.family ≠ F) ∧ err = entry.notOfFamily F := by
  cases hsource : entry.source with
  | any => simp [senderOf, hsource]
  | host address =>
      have hmap : (entry.narrow F address).map some = .error err ↔
          entry.narrow F address = .error err := by
        cases entry.narrow F address <;> simp [Except.map]
      simp only [senderOf, hsource, hmap, narrow_eq_error_iff, Source.host.injEq]
      grind

theorem exists_senderOf_iff :
    (∃ sender, entry.senderOf F = .ok sender) ↔
      ∀ host, entry.source = .host host → host.family = F := by
  cases hsource : entry.source with
  | any => simp [senderOf, hsource]
  | host address =>
      simp only [senderOf, hsource, map_eq_ok_iff, Source.host.injEq, forall_eq',
        ← exists_narrow_iff entry]
      constructor
      · rintro ⟨_, addr, haddr, -⟩
        exact ⟨addr, haddr⟩
      · rintro ⟨addr, haddr⟩
        exact ⟨some addr, addr, haddr, rfl⟩

theorem names_eq_error_iff {err : DaemonError} :
    (slotOf F table entry.inbound = .error err ∨
        (∃ slot, slotOf F table entry.inbound = .ok slot) ∧
          entry.outbound.mapM (slotOf F table) = .error err) ↔
      ∃ passed name rest, entry.inbound :: entry.outbound = passed ++ name :: rest ∧
        (∀ earlier ∈ passed, ∃ slot, Leads F table earlier slot) ∧ NameFault F table name err := by
  have hcons : (entry.inbound :: entry.outbound).mapM (slotOf F table) = .error err ↔
      slotOf F table entry.inbound = .error err ∨
        (∃ slot, slotOf F table entry.inbound = .ok slot) ∧
          entry.outbound.mapM (slotOf F table) = .error err := by
    simp only [List.mapM_cons, bind_eq_error_iff, pure, Except.pure, reduceCtorEq, and_false,
      exists_false, or_false, exists_and_right]
  rw [← hcons, mapM_eq_error_iff]
  simp only [slotOf_eq_ok_iff_leads, slotOf_eq_error_iff]

theorem toRoute_eq_error_iff {err : DaemonError} :
    entry.toRoute F table defaultTtl = .error err ↔ Fault F table entry err := by
  have hsteps : entry.toRoute F table defaultTtl = .error err ↔
      entry.narrow F entry.group.address = .error err ∨
        (∃ group, entry.narrow F entry.group.address = .ok group) ∧
          (entry.senderOf F = .error err ∨
            (∃ sender, entry.senderOf F = .ok sender) ∧
              (slotOf F table entry.inbound = .error err ∨
                (∃ slot, slotOf F table entry.inbound = .ok slot) ∧
                  entry.outbound.mapM (slotOf F table) = .error err)) := by
    simp only [toRoute, bind_eq_error_iff, pure, Except.pure, reduceCtorEq, and_false,
      exists_false, or_false, exists_and_right]
  rw [hsteps, names_eq_error_iff, exists_narrow_iff entry, exists_senderOf_iff, narrow_eq_error_iff,
    senderOf_eq_error_iff]
  constructor
  · rintro (⟨hgroup, rfl⟩ | ⟨hgroup, ⟨⟨host, hsource, hhost⟩, rfl⟩ | ⟨hsource, hnames⟩⟩)
    · exact .group hgroup
    · exact .source hgroup hsource hhost
    · obtain ⟨passed, name, rest, hsplit, hpassed, hname⟩ := hnames
      exact .name hgroup hsource hsplit hpassed hname
  · rintro (hgroup | ⟨hgroup, hsource, hhost⟩ | ⟨hgroup, hsource, hsplit, hpassed, hname⟩)
    · exact .inl ⟨hgroup, rfl⟩
    · exact .inr ⟨hgroup, .inl ⟨⟨_, hsource, hhost⟩, rfl⟩⟩
    · exact .inr ⟨hgroup, .inr ⟨hsource, _, _, _, hsplit, hpassed, hname⟩⟩

theorem exists_toRoute_iff :
    (∃ route, entry.toRoute F table defaultTtl = .ok route) ↔ entry.Buildable F table := by
  constructor
  · rintro ⟨route, hroute⟩
    obtain ⟨hgroup, hsender, hinbound, slots, hslots, -⟩ := toRoute_eq_ok_iff.mp hroute
    have houtbound := exists_mapM_eq_ok_iff.mp ⟨slots, hslots⟩
    simp only [slotOf_eq_ok_iff_leads] at hinbound houtbound
    exact
      { group := (exists_narrow_iff entry).mp ⟨_, hgroup⟩
        source := exists_senderOf_iff.mp ⟨_, hsender⟩
        inbound := ⟨_, hinbound⟩
        outbound := houtbound }
  · rintro ⟨hgroup, hsource, ⟨inbound, hinbound⟩, houtbound⟩
    obtain ⟨group, hgroup⟩ := (exists_narrow_iff entry).mpr hgroup
    obtain ⟨sender, hsender⟩ := exists_senderOf_iff.mpr hsource
    simp only [← slotOf_eq_ok_iff_leads] at hinbound houtbound
    obtain ⟨slots, hslots⟩ := exists_mapM_eq_ok_iff.mpr houtbound
    exact ⟨⟨sender, group, inbound, _⟩,
      toRoute_eq_ok_iff.mpr ⟨hgroup, hsender, hinbound, slots, hslots, rfl⟩⟩

theorem describes_of_toRoute {route : Route F}
    (hexists : ∀ iface ∈ table.entries, ∀ slot ∈ F.slotOf iface, slot.toNat < 32)
    (hroute : entry.toRoute F table defaultTtl = .ok route) :
    entry.Describes defaultTtl table route := by
  obtain ⟨hgroup, hsender, hinbound, slots, hslots, houtbound⟩ := toRoute_eq_ok_iff.mp hroute
  obtain ⟨hnames, hall⟩ := exists_of_mapM_eq_ok hslots
  simp only [slotOf_eq_ok_iff_leads] at hinbound hnames hall
  have hlt : ∀ slot ∈ slots, slot.toNat < slotCount := by
    intro slot hmem
    obtain ⟨name, -, iface, hfirst, hslot⟩ := hnames slot hmem
    exact hexists iface hfirst.mem slot hslot
  have hmem_iff : ∀ slot, slot ∈ slots ↔ ∃ name ∈ entry.outbound, Leads F table name slot := by
    intro slot
    refine ⟨hnames slot, ?_⟩
    rintro ⟨name, hmem, hleads⟩
    obtain ⟨found, hfound, hagain⟩ := hall name hmem
    rwa [hleads.unique hagain]
  refine
    { group := (narrow_eq_ok_iff.mp hgroup).symm
      sender := ?_
      inbound := hinbound
      outbound := ?_
      ttl := ?_ }
  · rcases sender_of_senderOf hsender with ⟨hany, hnone⟩ | ⟨addr, hhost, hsome⟩
    · rw [hnone, hany]
      rfl
    · rw [hsome, hhost]
      rfl
  · intro slot
    rw [houtbound, Family.Outbound.contains_ofSlots_iff, ← hmem_iff, ttlOr]
    constructor
    · rintro ⟨-, hmem, hpos⟩
      exact ⟨hpos, hmem⟩
    · rintro ⟨hpos, hmem⟩
      exact ⟨hlt slot hmem, hmem, hpos⟩
  · intro slot hslot
    rw [houtbound, Family.Outbound.contains_ofSlots_iff] at hslot
    rw [houtbound]
    exact Family.Outbound.carries_ofSlots hlt hslot.2.1

theorem family_eq_of_validate (hvalid : entry.validate = .ok ()) {host : Address}
    (hsource : entry.source = .host host) : host.family = entry.group.address.family := by
  apply Address.family_eq_of_isIPv4_eq
  by_contra hne
  have hcheck : entry.source.checkFamily entry.group =
      .error (.familyMismatch host entry.group.address) := by
    rw [hsource, Source.checkFamily, Group.isIPv4, if_neg hne]
  rw [validate, hcheck] at hvalid
  cases hvalid

/-- **Building a route is exact:** an entry gives a route just if nothing is missing, the route says
what the entry says, and an error is the first fault. -/
theorem toRoute_exact
    (hexists : ∀ iface ∈ table.entries, ∀ slot ∈ F.slotOf iface, slot.toNat < 32) :
    ((∃ route, entry.toRoute F table defaultTtl = .ok route) ↔ entry.Buildable F table) ∧
    (∀ route, entry.toRoute F table defaultTtl = .ok route →
      entry.Describes defaultTtl table route) ∧
    (∀ err, entry.toRoute F table defaultTtl = .error err ↔ entry.Fault F table err) ∧
    (entry.validate = .ok () → entry.group.address.family = F →
      ∀ text, entry.toRoute F table defaultTtl ≠ .error (.configuration text)) := by
  refine ⟨exists_toRoute_iff, fun _ => describes_of_toRoute hexists,
    fun _ => toRoute_eq_error_iff, ?_⟩
  intro hvalid hfamily text herr
  cases toRoute_eq_error_iff.mp herr with
  | group hgroup => exact hgroup hfamily
  | source hgroup hsource hhost => exact hhost ((family_eq_of_validate hvalid hsource).trans hgroup)
  | name _ _ _ _ hname => cases hname

def twoOfOneName : InterfaceTable :=
  .ofList
    [{ Interface.ethernet 2 "eth0" with vif := some 0 },
     { Interface.ethernet 3 "eth1" with vif := some 1 },
     { Interface.ethernet 4 "eth1" with vif := some 2 }]

def hostWay : RouteEntry where
  source := .host (.v4 ⟨10, 0, 0, 5⟩)
  group := ⟨.v4 ⟨239, 1, 1, 5⟩, by decide⟩
  inbound := "eth0"
  outbound := ["eth1", "eth1"]

theorem hostWay_exact :
    (∀ iface ∈ twoOfOneName.entries, ∀ slot ∈ Family.ipv4.slotOf iface, slot.toNat < 32) ∧
    hostWay.validate = .ok () ∧ hostWay.group.address.family = .ipv4 ∧
    hostWay.Buildable .ipv4 twoOfOneName ∧
    (∃ route, hostWay.toRoute .ipv4 twoOfOneName 3 = .ok route ∧
      hostWay.Describes 3 twoOfOneName route) ∧
    ∀ text, hostWay.toRoute .ipv4 twoOfOneName 3 ≠ .error (.configuration text) := by
  have hexists : ∀ iface ∈ twoOfOneName.entries, ∀ slot ∈ Family.ipv4.slotOf iface,
      slot.toNat < 32 := by
    have hsmall : ∀ iface ∈ twoOfOneName.entries,
        (Family.ipv4.slotOf iface).all (·.toNat < 32) = true := by decide
    intro iface hmem slot hslot
    have hslots := hsmall iface hmem
    rw [Option.mem_def.mp hslot, Option.all_some] at hslots
    exact of_decide_eq_true hslots
  have hroute : hostWay.toRoute .ipv4 twoOfOneName 3 =
      .ok (.concrete ⟨10, 0, 0, 5⟩ ⟨239, 1, 1, 5⟩ 0 (Family.Outbound.set .empty 1 3)) := by
    decide +kernel
  have hvalid : hostWay.validate = .ok () := by decide +kernel
  obtain ⟨hbuildable, hdescribes, -, hfamily⟩ := @toRoute_exact .ipv4 _ hostWay 3 hexists
  exact ⟨hexists, hvalid, rfl, hbuildable.mp ⟨_, hroute⟩, ⟨_, hroute, hdescribes _ hroute⟩,
    hfamily hvalid rfl⟩

end RouteEntry

end Multicast
