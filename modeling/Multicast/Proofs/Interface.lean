import Mathlib.Data.List.Nodup
import Multicast.Interface.Table

/-!
# Interface tables and their annotations

Recording a family's slots changes nothing else: indices and names stay, so interfaces are still
found by their names, and the slots of the other family stay.
-/

namespace Multicast

variable {F G : Family}

namespace Family

@[simp]
theorem name_annotate (F : Family) (slot : Option SlotIndex) (iface : Interface) :
    (F.annotate slot iface).name = iface.name := by
  cases F <;> rfl

@[simp]
theorem isLoopback_annotate (F : Family) (slot : Option SlotIndex) (iface : Interface) :
    (F.annotate slot iface).isLoopback = iface.isLoopback := by
  cases F <;> rfl

theorem slotOf_annotate_of_ne (hne : G ≠ F) (slot : Option SlotIndex) (iface : Interface) :
    G.slotOf (F.annotate slot iface) = G.slotOf iface := by
  cases F <;> cases G <;> first | rfl | exact absurd rfl hne

end Family

namespace InterfaceTable

variable {table other : InterfaceTable}

theorem nodup_ifindex (table : InterfaceTable) :
    (table.entries.map Interface.ifindex).Nodup :=
  table.ascending.imp UInt32.ne_of_lt

theorem eq_of_ifindex_eq {iface twin : Interface} (hmem : iface ∈ table.entries)
    (htwin : twin ∈ table.entries) (hifindex : iface.ifindex = twin.ifindex) : iface = twin :=
  List.inj_on_of_nodup_map table.nodup_ifindex hmem htwin hifindex

theorem mem_annotateEach {slots : List (Option SlotIndex)} {entries : List Interface}
    {iface : Interface} (hmem : iface ∈ annotateEach F slots entries) :
    ∃ before ∈ entries, iface.ifindex = before.ifindex ∧
      ∀ G : Family, G ≠ F → G.slotOf iface = G.slotOf before := by
  fun_induction annotateEach F slots entries with
  | case1 slot slots head rest ih =>
      rcases List.mem_cons.mp hmem with rfl | hrest
      · exact ⟨head, List.mem_cons_self, by simp,
          fun G hne => Family.slotOf_annotate_of_ne hne slot head⟩
      · obtain ⟨before, hbefore, hsame⟩ := ih hrest
        exact ⟨before, List.mem_cons_of_mem _ hbefore, hsame⟩
  | case2 => exact ⟨iface, hmem, rfl, fun _ _ => rfl⟩

/-- What interfaces are told apart by. -/
def identities (table : InterfaceTable) : List (UInt32 × String) :=
  table.entries.map fun iface => (iface.ifindex, iface.name)

theorem map_identity_annotateEach (slots : List (Option SlotIndex)) (entries : List Interface) :
    ((annotateEach F slots entries).map fun iface => (iface.ifindex, iface.name)) =
      entries.map fun iface => (iface.ifindex, iface.name) := by
  fun_induction annotateEach F slots entries with
  | case1 slot slots head rest ih => simp [ih]
  | case2 => rfl

@[simp]
theorem identities_annotate (slots : List (Option SlotIndex)) :
    (table.annotate F slots).identities = table.identities :=
  map_identity_annotateEach slots table.entries

def ifindexOf? (table : InterfaceTable) (name : String) : Option UInt32 :=
  (table.findByName? name).map Interface.ifindex

theorem ifindexOf?_eq (table : InterfaceTable) (name : String) :
    table.ifindexOf? name =
      (table.identities.find? fun identity => identity.2 == name).map Prod.fst := by
  rw [ifindexOf?, identities, List.find?_map, Option.map_map]
  rfl

theorem ifindexOf?_congr (hsame : table.identities = other.identities) (name : String) :
    table.ifindexOf? name = other.ifindexOf? name := by
  rw [ifindexOf?_eq, ifindexOf?_eq, hsame]

theorem mem_of_findByName? {name : String} {iface : Interface}
    (hfind : table.findByName? name = some iface) : iface ∈ table.entries ∧ iface.name = name :=
  ⟨List.mem_of_find?_eq_some hfind, by simpa using List.find?_some hfind⟩

end InterfaceTable

end Multicast
