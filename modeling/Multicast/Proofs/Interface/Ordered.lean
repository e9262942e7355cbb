import Mathlib.Data.List.Induction
import Multicast.Interface.Samples
import Multicast.Proofs.Interface.Halving

/-!
# The interface table as an ordered map

Whatever is put in and edited in place, in any order, a table holds for each index what was last put
in for it, with the edits made since. Its entries ascend, so what it holds determines it, and the
first interface of a name is the one of the smallest index.
-/

namespace Multicast

/-- An edit in place: it leaves the index. -/
structure Interface.Edit where
  apply : Interface → Interface
  ifindex_apply : ∀ iface, (apply iface).ifindex = iface.ifindex

def Interface.Edit.only (ifindex : UInt32) (edit : Interface.Edit) : Interface.Edit where
  apply iface := if iface.ifindex = ifindex then edit.apply iface else iface
  ifindex_apply iface := by
    split
    · exact edit.ifindex_apply iface
    · rfl

namespace InterfaceTable

variable {table other : InterfaceTable} {iface : Interface} {ifindex : UInt32}
  {edit : Interface.Edit}

/-! ### What a table holds -/

theorem find?_ifindex_eq_some_iff {entries : List Interface}
    (hnodup : (entries.map Interface.ifindex).Nodup) :
    (entries.find? fun entry => entry.ifindex == ifindex) = some iface ↔
      iface ∈ entries ∧ iface.ifindex = ifindex := by
  constructor
  · intro hfind
    exact ⟨List.mem_of_find?_eq_some hfind, by simpa using List.find?_some hfind⟩
  · rintro ⟨hmem, rfl⟩
    cases hfind : entries.find? fun entry => entry.ifindex == iface.ifindex with
    | none => exact absurd (List.find?_eq_none.mp hfind iface hmem) (by simp)
    | some found =>
        exact congrArg some (List.inj_on_of_nodup_map hnodup (List.mem_of_find?_eq_some hfind) hmem
          (by simpa using List.find?_some hfind))

theorem get?_eq_some_iff : table.get? ifindex = some iface ↔
    iface ∈ table.entries ∧ iface.ifindex = ifindex :=
  find?_ifindex_eq_some_iff table.nodup_ifindex

theorem mem_iff_get? : iface ∈ table.entries ↔ table.get? iface.ifindex = some iface := by
  rw [get?_eq_some_iff, and_iff_left rfl]

theorem ext_of_get? (hsame : ∀ ifindex, table.get? ifindex = other.get? ifindex) :
    table = other := by
  have hmem : ∀ iface, iface ∈ table.entries ↔ iface ∈ other.entries := fun iface => by
    rw [mem_iff_get?, mem_iff_get?, hsame]
  have hperm : table.entries.Perm other.entries :=
    (List.perm_ext_iff_of_nodup table.nodup_ifindex.of_map other.nodup_ifindex.of_map).mpr hmem
  have hascending := List.pairwise_map.mp table.ascending
  have hentries : table.entries = other.entries :=
    hperm.eq_of_pairwise (fun _ _ _ _ hlt hgt => absurd hgt (UInt32.lt_asymm hlt)) hascending
      (List.pairwise_map.mp other.ascending)
  cases table
  cases other
  congr

/-! ### Names -/

theorem findByName?_eq_some_iff_least {name : String} : table.findByName? name = some iface ↔
    iface.name = name ∧ table.get? iface.ifindex = some iface ∧
      ∀ other, other.name = name → table.get? other.ifindex = some other →
        iface.ifindex ≤ other.ifindex := by
  constructor
  · intro hfind
    obtain ⟨hname, before, after, hentries, hbefore⟩ := List.find?_eq_some_iff_append.mp hfind
    refine ⟨by simpa using hname, mem_iff_get?.mp (List.mem_of_find?_eq_some hfind), ?_⟩
    intro other hother hget
    have hmem := mem_iff_get?.mpr hget
    rw [hentries, List.mem_append, List.mem_cons] at hmem
    rcases hmem with hmem | rfl | hmem
    · exact absurd hother (by simpa using hbefore other hmem)
    · exact UInt32.le_refl _
    · have hascending : Ascending (before ++ iface :: after) := hentries ▸ table.ascending
      exact UInt32.le_of_lt (hascending.lt_of_split.2 other hmem)
  · rintro ⟨hname, hget, hleast⟩
    obtain ⟨before, after, hentries⟩ := List.append_of_mem (mem_iff_get?.mpr hget)
    have hascending : Ascending (before ++ iface :: after) := hentries ▸ table.ascending
    refine List.find?_eq_some_iff_append.mpr
      ⟨by simpa using hname, before, after, hentries, fun other hmem => ?_⟩
    have hlt := hascending.lt_of_split.1 other hmem
    have hne : other.name ≠ name := fun hother => by
      have hheld : other ∈ table.entries := hentries ▸ List.mem_append_left _ hmem
      exact UInt32.not_lt.mpr (hleast other hother (mem_iff_get?.mp hheld)) hlt
    simpa using hne

theorem findByName?_eq_none_iff_get? {name : String} : table.findByName? name = none ↔
    ∀ other, table.get? other.ifindex = some other → other.name ≠ name := by
  simp [findByName?, List.find?_eq_none, ← mem_iff_get?]

/-! ### One change -/

inductive Change where
  | insert (iface : Interface)
  | edit (ifindex : UInt32) (edit : Interface.Edit)
  | editEach (edit : Interface.Edit)

namespace Change

def perform (table : InterfaceTable) : Change → InterfaceTable
  | .insert iface => table.insert iface
  | .edit ifindex edit => table.modify ifindex edit.apply
  | .editEach edit => table.map edit.apply

def performHalving (entries : List Interface) : Change → List Interface
  | .insert iface => putAtPlace iface entries
  | .edit ifindex edit => editAtPlace ifindex edit.apply entries
  | .editEach edit => entries.map edit.apply

/-- What a change makes of an interface that it does not replace. -/
def editOf (iface : Interface) : Change → Interface
  | .insert _ => iface
  | .edit ifindex edit => (edit.only ifindex).apply iface
  | .editEach edit => edit.apply iface

/-- What a change makes of what is held for an index. -/
def track (ifindex : UInt32) (held : Option Interface) : Change → Option Interface
  | .insert iface => if iface.ifindex = ifindex then some iface else held
  | change => held.map change.editOf

end Change

theorem entries_map_edit (table : InterfaceTable) (edit : Interface.Edit) :
    (table.map edit.apply).entries = table.entries.map edit.apply :=
  List.map_congr_left fun iface _ => by rw [← edit.ifindex_apply iface]

theorem get?_map_edit (table : InterfaceTable) (edit : Interface.Edit) (ifindex : UInt32) :
    (table.map edit.apply).get? ifindex = (table.get? ifindex).map edit.apply := by
  have hindex : (fun iface : Interface => iface.ifindex == ifindex) ∘ edit.apply =
      fun iface => iface.ifindex == ifindex :=
    funext fun iface => by rw [Function.comp_apply, edit.ifindex_apply]
  rw [get?, entries_map_edit, List.find?_map, hindex, get?]

theorem find?_place (iface : Interface) (entries : List Interface) (ifindex : UInt32) :
    (place iface entries).find? (fun entry => entry.ifindex == ifindex) =
      if iface.ifindex = ifindex then some iface
      else entries.find? fun entry => entry.ifindex == ifindex := by
  induction entries with
  | nil => by_cases hindex : iface.ifindex = ifindex <;> simp [place, hindex]
  | cons head rest ih =>
      simp only [place, List.find?_cons]
      grind

theorem performHalving_eq (table : InterfaceTable) (change : Change) :
    change.performHalving table.entries = (change.perform table).entries := by
  cases change with
  | insert iface => exact putAtPlace_eq table.ascending iface
  | edit ifindex edit =>
      exact (editAtPlace_eq table.ascending ifindex edit.apply).trans
        (entries_map_edit table (edit.only ifindex)).symm
  | editEach edit => exact (entries_map_edit table edit).symm

theorem get?_perform (table : InterfaceTable) (change : Change) (ifindex : UInt32) :
    (change.perform table).get? ifindex = change.track ifindex (table.get? ifindex) := by
  cases change with
  | insert iface => exact find?_place iface table.entries ifindex
  | edit position edit => exact get?_map_edit table (edit.only position) ifindex
  | editEach edit => exact get?_map_edit table edit ifindex

/-! ### Any number of changes -/

def run (changes : List Change) : InterfaceTable := changes.foldl Change.perform empty

def runHalving (changes : List Change) : List Interface := changes.foldl Change.performHalving []

theorem runHalving_eq (changes : List Change) : runHalving changes = (run changes).entries := by
  induction changes using List.reverseRecOn with
  | nil => rfl
  | append_singleton changes change ih =>
      rw [runHalving, run, List.foldl_append, List.foldl_append]
      exact (congrArg change.performHalving ih).trans (performHalving_eq (run changes) change)

theorem get?_run (changes : List Change) (ifindex : UInt32) :
    (run changes).get? ifindex = changes.foldl (Change.track ifindex) none := by
  induction changes using List.reverseRecOn with
  | nil => rfl
  | append_singleton changes change ih =>
      rw [run, List.foldl_append, List.foldl_append, ← ih]
      exact get?_perform (run changes) change ifindex

def PutIn (ifindex : UInt32) (changes : List Change) : Prop :=
  ∃ iface, Change.insert iface ∈ changes ∧ iface.ifindex = ifindex

/-- The changes last put an interface in at the index, and their later edits made this of it. -/
def LastPut (ifindex : UInt32) (changes : List Change) (held : Interface) : Prop :=
  ∃ before iface after, changes = before ++ .insert iface :: after ∧ iface.ifindex = ifindex ∧
    ¬PutIn ifindex after ∧ after.foldl Change.editOf iface = held

theorem lastPut_or_not_putIn (ifindex : UInt32) (changes : List Change) :
    (∃ held, LastPut ifindex changes held) ∨ ¬PutIn ifindex changes := by
  induction changes with
  | nil => exact .inr fun ⟨_, hmem, _⟩ => nomatch hmem
  | cons change rest ih =>
      rcases ih with ⟨held, before, iface, after, rfl, hlast⟩ | hrest
      · exact .inl ⟨held, change :: before, iface, after, rfl, hlast⟩
      by_cases hput : ∃ iface, change = .insert iface ∧ iface.ifindex = ifindex
      · obtain ⟨iface, rfl, hindex⟩ := hput
        exact .inl ⟨_, [], iface, rest, rfl, hindex, hrest, rfl⟩
      · refine .inr fun ⟨iface, hmem, hindex⟩ => ?_
        rcases List.mem_cons.mp hmem with rfl | hmem
        · exact hput ⟨iface, rfl, hindex⟩
        · exact hrest ⟨iface, hmem, hindex⟩

theorem foldl_track_of_not_putIn {changes : List Change} (hnot : ¬PutIn ifindex changes)
    (held : Option Interface) :
    changes.foldl (Change.track ifindex) held =
      held.map fun iface => changes.foldl Change.editOf iface := by
  induction changes generalizing held with
  | nil => exact Option.map_id'.symm
  | cons change rest ih =>
      have hrest : ¬PutIn ifindex rest := fun ⟨iface, hmem, hindex⟩ =>
        hnot ⟨iface, List.mem_cons_of_mem _ hmem, hindex⟩
      have htrack : change.track ifindex held = held.map change.editOf := by
        cases change with
        | insert iface =>
            exact (if_neg fun hindex => hnot ⟨iface, List.mem_cons_self, hindex⟩).trans
              Option.map_id'.symm
        | edit position edit => rfl
        | editEach edit => rfl
      rw [List.foldl_cons, ih hrest, htrack, Option.map_map]
      rfl

theorem get?_run_of_lastPut {changes : List Change} {held : Interface}
    (hlast : LastPut ifindex changes held) : (run changes).get? ifindex = some held := by
  obtain ⟨before, iface, after, rfl, hindex, hafter, rfl⟩ := hlast
  rw [get?_run, List.foldl_append, List.foldl_cons, foldl_track_of_not_putIn hafter]
  simp [Change.track, hindex]

theorem get?_run_of_not_putIn {changes : List Change} (hnot : ¬PutIn ifindex changes) :
    (run changes).get? ifindex = none := by
  rw [get?_run, foldl_track_of_not_putIn hnot, Option.map_none]

theorem get?_run_eq_some_iff {changes : List Change} {held : Interface} :
    (run changes).get? ifindex = some held ↔ LastPut ifindex changes held := by
  refine ⟨fun hget => ?_, get?_run_of_lastPut⟩
  rcases lastPut_or_not_putIn ifindex changes with ⟨last, hlast⟩ | hnot
  · rw [get?_run_of_lastPut hlast, Option.some.injEq] at hget
    exact hget ▸ hlast
  · rw [get?_run_of_not_putIn hnot] at hget
    cases hget

theorem get?_run_eq_none_iff {changes : List Change} :
    (run changes).get? ifindex = none ↔ ¬PutIn ifindex changes := by
  refine ⟨fun hget => ?_, get?_run_of_not_putIn⟩
  rcases lastPut_or_not_putIn ifindex changes with ⟨last, hlast⟩ | hnot
  · rw [get?_run_of_lastPut hlast] at hget
    cases hget
  · exact hnot

/-! ### Collecting -/

theorem ofList_eq_run (ifaces : List Interface) : ofList ifaces = run (ifaces.map .insert) := by
  rw [run, List.foldl_map]
  rfl

theorem get?_ofList (ifaces : List Interface) (ifindex : UInt32) :
    (ofList ifaces).get? ifindex = ifaces.reverse.find? fun iface => iface.ifindex == ifindex := by
  induction ifaces using List.reverseRecOn with
  | nil => rfl
  | append_singleton ifaces iface ih =>
      have hfind : (ofList (ifaces ++ [iface])).get? ifindex =
          if iface.ifindex = ifindex then some iface else (ofList ifaces).get? ifindex := by
        rw [ofList, List.foldl_append]
        exact find?_place iface _ ifindex
      rw [hfind, ih, List.reverse_append, List.reverse_singleton, List.singleton_append,
        List.find?_cons]
      grind

theorem get?_ofList_eq_some_iff {ifaces : List Interface}
    (hnodup : (ifaces.map Interface.ifindex).Nodup) :
    (ofList ifaces).get? ifindex = some iface ↔ iface ∈ ifaces ∧ iface.ifindex = ifindex := by
  have hreverse : (ifaces.reverse.map Interface.ifindex).Nodup := by
    rwa [List.map_reverse, List.nodup_reverse]
  rw [get?_ofList, find?_ifindex_eq_some_iff hreverse, List.mem_reverse]

theorem ofList_eq_of_perm {ifaces others : List Interface} (hperm : ifaces.Perm others)
    (hnodup : (ifaces.map Interface.ifindex).Nodup) : ofList ifaces = ofList others := by
  refine ext_of_get? fun ifindex => Option.ext fun iface => ?_
  rw [get?_ofList_eq_some_iff hnodup, hperm.mem_iff,
    get?_ofList_eq_some_iff ((hperm.map _).nodup_iff.mp hnodup)]

/-! ### Recording slots -/

theorem exists_edit_annotateEach (F : Family) (slots : List (Option SlotIndex))
    {entries : List Interface} (hnodup : (entries.map Interface.ifindex).Nodup) :
    ∃ edit : Interface.Edit, annotateEach F slots entries = entries.map edit.apply := by
  fun_induction annotateEach F slots entries with
  | case1 slot slots iface rest ih =>
      rw [List.map_cons, List.nodup_cons] at hnodup
      obtain ⟨edit, hrest⟩ := ih hnodup.2
      -- the interfaces differ in their indices, so an edit can tell this one from the rest
      refine ⟨⟨fun other => if other.ifindex = iface.ifindex then F.annotate slot other
        else edit.apply other, fun other => ?_⟩, ?_⟩
      · split
        · exact F.ifindex_annotate slot other
        · exact edit.ifindex_apply other
      · have hne : ∀ other ∈ rest, other.ifindex ≠ iface.ifindex := fun other hmem hindex =>
          hnodup.1 (hindex ▸ List.mem_map_of_mem hmem)
        rw [hrest, List.map_cons, List.cons_eq_cons]
        exact ⟨(if_pos rfl).symm,
          List.map_congr_left fun other hmem => (if_neg (hne other hmem)).symm⟩
  | case2 => exact ⟨⟨id, fun _ => rfl⟩, (List.map_id _).symm⟩

theorem exists_edit_annotate (F : Family) (slots : List (Option SlotIndex))
    (table : InterfaceTable) :
    ∃ edit : Interface.Edit, table.annotate F slots = (Change.editEach edit).perform table := by
  obtain ⟨edit, hedit⟩ := exists_edit_annotateEach F slots table.nodup_ifindex
  refine ⟨edit, ext_of_get? fun ifindex => ?_⟩
  rw [Change.perform, get?, get?, entries_map_edit, ← hedit, annotate]

/-! ### The map -/

/-- **A table is a map in order of index:** halving finds and changes what a walk from the front
does, each index has what was last put in for it, and a name means the smallest index that has it.
-/
theorem ordered_map (changes : List Change) :
    runHalving changes = (run changes).entries ∧
      Ascending (run changes).entries ∧
      (∀ ifindex, getAtPlace? ifindex (runHalving changes) = (run changes).get? ifindex ∧
        (∀ held, (run changes).get? ifindex = some held ↔ LastPut ifindex changes held) ∧
        ((run changes).get? ifindex = none ↔ ¬PutIn ifindex changes)) ∧
      (∀ name, (∀ found, (run changes).findByName? name = some found ↔
          found.name = name ∧ (run changes).get? found.ifindex = some found ∧
            ∀ other, other.name = name → (run changes).get? other.ifindex = some other →
              found.ifindex ≤ other.ifindex) ∧
        ((run changes).findByName? name = none ↔
          ∀ other, (run changes).get? other.ifindex = some other → other.name ≠ name)) ∧
      (∀ ifaces, ofList ifaces = run (ifaces.map .insert) ∧
        (∀ ifindex, (ofList ifaces).get? ifindex =
          ifaces.reverse.find? fun iface => iface.ifindex == ifindex) ∧
        ∀ others, ifaces.Perm others → (ifaces.map Interface.ifindex).Nodup →
          ofList ifaces = ofList others) := by
  refine ⟨runHalving_eq changes, (run changes).ascending, fun ifindex => ?_, fun name => ?_,
    fun ifaces => ?_⟩
  · rw [runHalving_eq]
    exact ⟨getAtPlace?_eq (run changes).ascending ifindex, fun held => get?_run_eq_some_iff,
      get?_run_eq_none_iff⟩
  · exact ⟨fun found => findByName?_eq_some_iff_least, findByName?_eq_none_iff_get?⟩
  · exact ⟨ofList_eq_run ifaces, get?_ofList ifaces, fun others => ofList_eq_of_perm⟩

/-- Two interfaces of one name, one of them put in over another and edited. -/
def twins : List Change :=
  [.insert (.ethernet 3 "eth9"), .insert (.ethernet 1 "eth0"), .insert (.ethernet 1 "eth9"),
    .edit 1 ⟨fun iface => { iface with vif := some 0 }, fun _ => rfl⟩]

theorem ordered_map_twins :
    (run twins).get? 1 = some { Interface.ethernet 1 "eth9" with vif := some 0 } ∧
      (run twins).get? 2 = none ∧
      (run twins).findByName? "eth9" = some { Interface.ethernet 1 "eth9" with vif := some 0 } ∧
      ofList [.ethernet 3 "eth9", .ethernet 1 "eth0"] =
        ofList [.ethernet 1 "eth0", .ethernet 3 "eth9"] := by
  obtain ⟨-, -, hget, hname, hcollect⟩ := ordered_map twins
  have hone : (run twins).get? 1 = some { Interface.ethernet 1 "eth9" with vif := some 0 } := by
    refine ((hget 1).2.1 _).mpr ⟨[.insert (.ethernet 3 "eth9"), .insert (.ethernet 1 "eth0")],
      .ethernet 1 "eth9", _, rfl, rfl, ?_, rfl⟩
    rintro ⟨iface, hmem, -⟩
    simp at hmem
  have habsent : ∀ ifindex, ifindex ≠ 3 → ifindex ≠ 1 → (run twins).get? ifindex = none := by
    refine fun ifindex hthree hone => (hget ifindex).2.2.mpr ?_
    rintro ⟨iface, hmem, rfl⟩
    simp only [twins, List.mem_cons, Change.insert.injEq, reduceCtorEq, List.not_mem_nil,
      or_false] at hmem
    rcases hmem with rfl | rfl | rfl
    · exact hthree rfl
    · exact hone rfl
    · exact hone rfl
  refine ⟨hone, habsent 2 (by decide) (by decide), ?_, ?_⟩
  · refine ((hname "eth9").1 _).mpr ⟨rfl, hone, fun other _ hother => ?_⟩
    refine UInt32.not_lt.mp fun hlt => ?_
    have hzero : other.ifindex = 0 := UInt32.lt_one_iff.mp hlt
    rw [hzero, habsent 0 (by decide) (by decide)] at hother
    cases hother
  · exact (hcollect _).2.2 _ (List.Perm.swap _ _ _) (by decide)

end InterfaceTable

end Multicast
