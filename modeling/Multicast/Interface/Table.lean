import Multicast.Family

/-!
The table of interfaces, one for each index, in ascending order of index.
-/

namespace Multicast

structure InterfaceTable where
  entries : List Interface
  ascending : (entries.map Interface.ifindex).Pairwise (· < ·)
  deriving DecidableEq

namespace InterfaceTable

def empty : InterfaceTable := ⟨[], by simp⟩

/-- Puts an interface at its place, over one with the same index. -/
def place (iface : Interface) : List Interface → List Interface
  | [] => [iface]
  | head :: rest =>
    if iface.ifindex < head.ifindex then iface :: head :: rest
    else if iface.ifindex = head.ifindex then iface :: rest
    else head :: place iface rest

theorem mem_place {iface other : Interface} {entries : List Interface}
    (h : other ∈ place iface entries) : other = iface ∨ other ∈ entries := by
  induction entries with
  | nil => simpa [place] using h
  | cons head rest ih =>
    unfold place at h
    split at h
    · simpa using h
    · split at h
      · rcases List.mem_cons.1 h with h | h
        · exact .inl h
        · exact .inr (List.mem_cons_of_mem _ h)
      · rcases List.mem_cons.1 h with h | h
        · exact .inr (h ▸ List.mem_cons_self)
        · exact (ih h).imp_right (List.mem_cons_of_mem _)

theorem ascending_place {entries : List Interface}
    (h : (entries.map Interface.ifindex).Pairwise (· < ·)) (iface : Interface) :
    ((place iface entries).map Interface.ifindex).Pairwise (· < ·) := by
  induction entries with
  | nil => simp [place]
  | cons head rest ih =>
    rw [List.map_cons, List.pairwise_cons] at h
    unfold place
    split
    · rename_i lt
      rw [List.map_cons, List.pairwise_cons]
      refine ⟨fun i hi => ?_, by simpa using h⟩
      rcases List.mem_cons.1 hi with rfl | hi
      · exact lt
      · exact UInt32.lt_trans lt (h.1 i hi)
    · split
      · rename_i eq
        rw [List.map_cons, List.pairwise_cons, eq]
        exact h
      · rename_i notLt ne
        rw [List.map_cons, List.pairwise_cons]
        refine ⟨fun i hi => ?_, ih h.2⟩
        obtain ⟨other, hother, rfl⟩ := List.mem_map.1 hi
        rcases mem_place hother with rfl | hmem
        · exact UInt32.lt_of_le_of_ne (UInt32.not_lt.1 notLt) (Ne.symm ne)
        · exact h.1 _ (List.mem_map_of_mem hmem)

def insert (table : InterfaceTable) (iface : Interface) : InterfaceTable :=
  ⟨place iface table.entries, ascending_place table.ascending iface⟩

/-- The last interface of each index in a list. -/
def ofList (ifaces : List Interface) : InterfaceTable := ifaces.foldl insert empty

def get? (table : InterfaceTable) (ifindex : UInt32) : Option Interface :=
  table.entries.find? fun iface => iface.ifindex == ifindex

def findByName? (table : InterfaceTable) (name : String) : Option Interface :=
  table.entries.find? fun iface => iface.name == name

/-- Edits every interface; an edit cannot change the index. -/
def map (edit : Interface → Interface) (table : InterfaceTable) : InterfaceTable where
  entries := table.entries.map fun iface => { edit iface with ifindex := iface.ifindex }
  ascending := by simpa [Function.comp_def] using table.ascending

def modify (table : InterfaceTable) (ifindex : UInt32) (edit : Interface → Interface) :
    InterfaceTable :=
  table.map fun iface => if iface.ifindex = ifindex then edit iface else iface

def annotateEach (F : Family) : List (Option SlotIndex) → List Interface → List Interface
  | slot :: slots, iface :: rest => F.annotate slot iface :: annotateEach F slots rest
  | _, entries => entries

@[simp]
theorem map_ifindex_annotateEach (F : Family) (slots : List (Option SlotIndex))
    (entries : List Interface) :
    (annotateEach F slots entries).map Interface.ifindex = entries.map Interface.ifindex := by
  fun_induction annotateEach F slots entries with
  | case1 slot slots iface rest ih => simp [ih]
  | case2 => rfl

def annotate (F : Family) (slots : List (Option SlotIndex)) (table : InterfaceTable) :
    InterfaceTable :=
  ⟨annotateEach F slots table.entries, by simpa using table.ascending⟩

def size (table : InterfaceTable) : Nat := table.entries.length

end InterfaceTable

end Multicast
