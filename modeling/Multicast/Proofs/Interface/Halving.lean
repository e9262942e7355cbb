import Multicast.Proofs.Interface

/-!
# Finding a place by halving

Interfaces that ascend by their indices are found by halving, and where halving ends without one is
where an interface of that index belongs. So inserting, looking up and editing by halving come to
the same as going through the table from its front.
-/

namespace Multicast

variable {entries : List Interface} {iface : Interface} {ifindex : UInt32}

abbrev Ascending (entries : List Interface) : Prop :=
  (entries.map Interface.ifindex).Pairwise (· < ·)

theorem Ascending.lt_of_split {before after : List Interface}
    (hascending : Ascending (before ++ iface :: after)) :
    (∀ other ∈ before, other.ifindex < iface.ifindex) ∧
      ∀ other ∈ after, iface.ifindex < other.ifindex := by
  rw [Ascending, List.map_append, List.map_cons, List.pairwise_append,
    List.pairwise_cons] at hascending
  obtain ⟨-, ⟨hafter, -⟩, hbefore⟩ := hascending
  exact ⟨fun other hmem => hbefore _ (List.mem_map_of_mem hmem) _ List.mem_cons_self,
    fun other hmem => hafter _ (List.mem_map_of_mem hmem)⟩

/-! ### Halving -/

inductive Place where
  | found (position : Nat)
  | missing (position : Nat)
  deriving DecidableEq

/-- Looks for an index from one position on and before another, by halving. -/
def placeBetween (ifindex : UInt32) (entries : List Interface) (low high : Nat) : Place :=
  if low < high then
    match entries[low + (high - low) / 2]? with
    | none => .missing low
    | some iface =>
      if iface.ifindex = ifindex then .found (low + (high - low) / 2)
      else if iface.ifindex < ifindex then
        placeBetween ifindex entries (low + (high - low) / 2 + 1) high
      else placeBetween ifindex entries low (low + (high - low) / 2)
  else .missing low
termination_by high - low
decreasing_by all_goals omega

def placeOf (ifindex : UInt32) (entries : List Interface) : Place :=
  placeBetween ifindex entries 0 entries.length

/-- The place is right: the index is there, or all before it are smaller and all after larger. -/
inductive Place.Right (ifindex : UInt32) : List Interface → Place → Prop
  | found (before after : List Interface) {iface : Interface} (hindex : iface.ifindex = ifindex) :
      Right ifindex (before ++ iface :: after) (.found before.length)
  | missing (before after : List Interface) (hbefore : ∀ other ∈ before, other.ifindex < ifindex)
      (hafter : ∀ other ∈ after, ifindex < other.ifindex) :
      Right ifindex (before ++ after) (.missing before.length)

theorem Place.right_found {position : Nat} (hget : entries[position]? = some iface)
    (hindex : iface.ifindex = ifindex) : Place.Right ifindex entries (.found position) := by
  obtain ⟨hlt, rfl⟩ := List.getElem?_eq_some_iff.mp hget
  have hright := Place.Right.found (entries.take position) (entries.drop (position + 1)) hindex
  rwa [← List.drop_eq_getElem_cons, List.take_append_drop, List.length_take,
    Nat.min_eq_left (Nat.le_of_lt hlt)] at hright

/-- What halving never looks at again is smaller below and larger above. -/
theorem right_placeBetween (hascending : Ascending entries) {low high : Nat} (hle : low ≤ high)
    (hhigh : high ≤ entries.length)
    (hbelow : ∀ position other, entries[position]? = some other → position < low →
      other.ifindex < ifindex)
    (habove : ∀ position other, entries[position]? = some other → high ≤ position →
      ifindex < other.ifindex) :
    Place.Right ifindex entries (placeBetween ifindex entries low high) := by
  have hlt : ∀ (first second : Nat) (one other : Interface), entries[first]? = some one →
      entries[second]? = some other → first < second → one.ifindex < other.ifindex := by
    intro first second one other hone hother hless
    obtain ⟨hfirst, rfl⟩ := List.getElem?_eq_some_iff.mp hone
    obtain ⟨hsecond, rfl⟩ := List.getElem?_eq_some_iff.mp hother
    exact List.pairwise_iff_getElem.mp (List.pairwise_map.mp hascending) first second hfirst hsecond
      hless
  fun_induction placeBetween ifindex entries low high with
  | case1 low high hlow hnone =>
      have hpast : entries.length ≤ low + (high - low) / 2 := List.getElem?_eq_none_iff.mp hnone
      omega
  | case2 low high hlow iface hget hindex => exact Place.right_found hget hindex
  | case3 low high hlow iface hget hne hless ih =>
      refine ih (by omega) hhigh (fun position other hother hposition => ?_) habove
      rcases Nat.lt_or_eq_of_le (Nat.lt_succ_iff.mp hposition) with hbefore | rfl
      · exact UInt32.lt_trans (hlt _ _ _ _ hother hget hbefore) hless
      · rw [hget] at hother
        cases hother
        exact hless
  | case4 low high hlow iface hget hne hnot ih =>
      have hgreater : ifindex < iface.ifindex :=
        UInt32.lt_of_le_of_ne (UInt32.not_lt.mp hnot) (Ne.symm hne)
      refine ih (by omega) (by omega) hbelow (fun position other hother hposition => ?_)
      rcases Nat.lt_or_eq_of_le hposition with hafter | rfl
      · exact UInt32.lt_trans hgreater (hlt _ _ _ _ hget hother hafter)
      · rw [hget] at hother
        cases hother
        exact hgreater
  | case5 low high hlow =>
      obtain rfl : low = high := Nat.le_antisymm hle (Nat.not_lt.mp hlow)
      have hright := Place.Right.missing (entries.take low) (entries.drop low)
        (by
          intro other hmem
          obtain ⟨position, hposition, rfl⟩ := List.mem_iff_getElem.mp hmem
          rw [List.length_take] at hposition
          rw [List.getElem_take]
          exact hbelow position _ (List.getElem?_eq_getElem (by omega)) (by omega))
        (by
          intro other hmem
          obtain ⟨position, hposition, rfl⟩ := List.mem_iff_getElem.mp hmem
          rw [List.length_drop] at hposition
          rw [List.getElem_drop]
          exact habove (low + position) _ (List.getElem?_eq_getElem (by omega)) (by omega))
      rwa [List.take_append_drop, List.length_take, Nat.min_eq_left hhigh] at hright

theorem right_placeOf (hascending : Ascending entries) (ifindex : UInt32) :
    Place.Right ifindex entries (placeOf ifindex entries) := by
  refine right_placeBetween hascending (Nat.zero_le _) (Nat.le_refl _) ?_ ?_
  · exact fun position other _ hlt => absurd hlt (Nat.not_lt_zero _)
  · intro position other hget hle
    exact absurd (List.getElem?_eq_some_iff.mp hget).1 (Nat.not_lt.mpr hle)

def putAtPlace (iface : Interface) (entries : List Interface) : List Interface :=
  match placeOf iface.ifindex entries with
  | .found position => entries.set position iface
  | .missing position => entries.insertIdx position iface

def getAtPlace? (ifindex : UInt32) (entries : List Interface) : Option Interface :=
  match placeOf ifindex entries with
  | .found position => entries[position]?
  | .missing _ => none

def editAtPlace (ifindex : UInt32) (edit : Interface → Interface) (entries : List Interface) :
    List Interface :=
  match placeOf ifindex entries with
  | .found position => entries.modify position edit
  | .missing _ => entries

theorem insertIdx_length_append (iface : Interface) (before after : List Interface) :
    (before ++ after).insertIdx before.length iface = before ++ iface :: after := by
  induction before with
  | nil => simp
  | cons head rest ih =>
      rw [List.cons_append, List.length_cons, List.insertIdx_succ_cons, ih, List.cons_append]

theorem modify_length_append (edit : Interface → Interface) (before after : List Interface) :
    (before ++ iface :: after).modify before.length edit = before ++ edit iface :: after := by
  induction before with
  | nil => simp
  | cons head rest ih =>
      rw [List.cons_append, List.length_cons, List.modify_succ_cons, ih, List.cons_append]

theorem place_append {before after : List Interface}
    (hbefore : ∀ other ∈ before, other.ifindex < iface.ifindex) :
    InterfaceTable.place iface (before ++ after) = before ++ InterfaceTable.place iface after := by
  induction before with
  | nil => rfl
  | cons head rest ih =>
      have hhead := hbefore head List.mem_cons_self
      rw [List.cons_append, InterfaceTable.place, if_neg (UInt32.lt_asymm hhead),
        if_neg (UInt32.ne_of_lt hhead).symm,
        ih fun other hmem => hbefore other (List.mem_cons_of_mem _ hmem), List.cons_append]

theorem putAtPlace_eq (hascending : Ascending entries) (iface : Interface) :
    putAtPlace iface entries = InterfaceTable.place iface entries := by
  have hright := right_placeOf hascending iface.ifindex
  unfold putAtPlace
  generalize placeOf iface.ifindex entries = place at hright ⊢
  cases hright with
  | found before after hindex =>
      rw [place_append (hindex ▸ hascending.lt_of_split.1)]
      simp [InterfaceTable.place, hindex]
  | missing before after hbefore hafter =>
      rw [place_append hbefore]
      simp only [insertIdx_length_append]
      cases after with
      | nil => rfl
      | cons head rest => rw [InterfaceTable.place, if_pos (hafter head List.mem_cons_self)]

theorem getAtPlace?_eq (hascending : Ascending entries) (ifindex : UInt32) :
    getAtPlace? ifindex entries = entries.find? fun iface => iface.ifindex == ifindex := by
  have hright := right_placeOf hascending ifindex
  unfold getAtPlace?
  generalize placeOf ifindex entries = place at hright ⊢
  cases hright with
  | found before after hindex =>
      have hbefore : ∀ other ∈ before, (!other.ifindex == ifindex) = true := fun other hmem => by
        simpa using UInt32.ne_of_lt (hindex ▸ hascending.lt_of_split.1 other hmem)
      rw [List.find?_eq_some_iff_append.mpr ⟨by simpa using hindex, before, after, rfl, hbefore⟩]
      simp
  | missing before after hbefore hafter =>
      refine (List.find?_eq_none.mpr fun other hmem => ?_).symm
      rcases List.mem_append.mp hmem with hmem | hmem
      · simpa using UInt32.ne_of_lt (hbefore other hmem)
      · simpa using (UInt32.ne_of_lt (hafter other hmem)).symm

theorem editAtPlace_eq (hascending : Ascending entries) (ifindex : UInt32)
    (edit : Interface → Interface) :
    editAtPlace ifindex edit entries =
      entries.map fun iface => if iface.ifindex = ifindex then edit iface else iface := by
  have hright := right_placeOf hascending ifindex
  have hother : ∀ others : List Interface, (∀ other ∈ others, other.ifindex ≠ ifindex) →
      (others.map fun iface => if iface.ifindex = ifindex then edit iface else iface) = others :=
    fun others hne =>
      (List.map_congr_left fun other hmem => if_neg (hne other hmem)).trans (List.map_id' others)
  unfold editAtPlace
  generalize placeOf ifindex entries = place at hright ⊢
  cases hright with
  | found before after hindex =>
      obtain ⟨hbefore, hafter⟩ := hascending.lt_of_split
      rw [List.map_append, List.map_cons, if_pos hindex,
        hother before fun other hmem => UInt32.ne_of_lt (hindex ▸ hbefore other hmem),
        hother after fun other hmem => (UInt32.ne_of_lt (hindex ▸ hafter other hmem)).symm]
      exact modify_length_append edit before after
  | missing before after hbefore hafter =>
      refine (hother _ fun other hmem => ?_).symm
      rcases List.mem_append.mp hmem with hmem | hmem
      · exact UInt32.ne_of_lt (hbefore other hmem)
      · exact (UInt32.ne_of_lt (hafter other hmem)).symm

end Multicast
