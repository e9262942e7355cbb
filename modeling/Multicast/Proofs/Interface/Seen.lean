import Multicast.Proofs.Channel.Assignment

/-!
# Tables as one family sees them

A family reads of an interface what is common to all, and its own slot. Slots that are recorded for
another family are not seen.
-/

namespace Multicast

variable {F : Family}

/-- The interface with the slots of no other family. -/
def Interface.only (F : Family) (iface : Interface) : Interface :=
  F.annotate (F.slotOf iface) iface.bare

@[simp]
theorem Interface.bare_only (F : Family) (iface : Interface) :
    (iface.only F).bare = iface.bare := by
  cases F <;> rfl

@[simp]
theorem Interface.slotOf_only (iface : Interface) : F.slotOf (iface.only F) = F.slotOf iface :=
  F.slotOf_annotate _ _

@[simp]
theorem Interface.isLoopback_only (iface : Interface) :
    (iface.only F).isLoopback = iface.isLoopback := by
  cases F <;> rfl

@[simp]
theorem Interface.ifindex_only (iface : Interface) : (iface.only F).ifindex = iface.ifindex := by
  cases F <;> rfl

theorem Interface.only_annotate (slot : Option SlotIndex) (iface : Interface) :
    (F.annotate slot iface).only F = F.annotate slot (iface.only F) := by
  cases F <;> rfl

theorem Interface.only_annotate_of_ne {G : Family} (hne : F ≠ G) (slot : Option SlotIndex)
    (iface : Interface) : (G.annotate slot iface).only F = iface.only F := by
  cases F <;> cases G <;> first | rfl | exact absurd rfl hne

namespace InterfaceTable

def seenBy (F : Family) (table : InterfaceTable) : List Interface :=
  table.entries.map (Interface.only F)

theorem map_only_annotateEach (slots : List (Option SlotIndex)) (entries : List Interface) :
    (annotateEach F slots entries).map (Interface.only F) =
      annotateEach F slots (entries.map (Interface.only F)) := by
  fun_induction annotateEach F slots entries with
  | case1 slot slots head rest ih =>
      rw [List.map_cons, List.map_cons, annotateEach, ih, Interface.only_annotate]
  | case2 slots entries hnot =>
      cases slots with
      | nil => rfl
      | cons slot slots =>
          cases entries with
          | nil => rfl
          | cons iface rest => exact absurd rfl (hnot slot slots iface rest rfl)

theorem map_only_annotateEach_of_ne {G : Family} (hne : F ≠ G) (slots : List (Option SlotIndex))
    (entries : List Interface) :
    (annotateEach G slots entries).map (Interface.only F) = entries.map (Interface.only F) := by
  fun_induction annotateEach G slots entries with
  | case1 slot slots head rest ih =>
      rw [List.map_cons, List.map_cons, ih, Interface.only_annotate_of_ne hne]
  | case2 => rfl

theorem seenBy_annotate (slots : List (Option SlotIndex)) (table : InterfaceTable) :
    (table.annotate F slots).seenBy F = annotateEach F slots (table.seenBy F) :=
  map_only_annotateEach slots table.entries

theorem seenBy_annotate_of_ne {G : Family} (hne : F ≠ G) (slots : List (Option SlotIndex))
    (table : InterfaceTable) : (table.annotate G slots).seenBy F = table.seenBy F :=
  map_only_annotateEach_of_ne hne slots table.entries

theorem map_only_findByName? (table : InterfaceTable) (name : String) :
    (table.findByName? name).map (Interface.only F) =
      (table.seenBy F).find? fun iface => iface.name == name := by
  have hname : (fun iface : Interface => iface.name == name) ∘ Interface.only F =
      fun iface => iface.name == name := by
    funext iface
    cases F <;> rfl
  rw [seenBy, List.find?_map, hname, findByName?]

theorem map_bare_of_seenBy {table others : InterfaceTable}
    (hseen : table.seenBy F = others.seenBy F) :
    table.entries.map Interface.bare = others.entries.map Interface.bare := by
  have hbare : Interface.bare ∘ Interface.only F = Interface.bare :=
    funext (Interface.bare_only F)
  have hmap := congrArg (List.map Interface.bare) hseen
  rwa [seenBy, seenBy, List.map_map, List.map_map, hbare] at hmap

end InterfaceTable

end Multicast
