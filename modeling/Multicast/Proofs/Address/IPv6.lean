import Multicast.Proofs.Address.IPv4
import Multicast.Proofs.Address.Octets

/-!
# The text of an IPv6 address

An IPv6 address is what its text reads as, with a gap, with an IPv4 address at its end or plain. The
gap is the first of the longest runs of zero groups.
-/

namespace Multicast.IPv6

open Numeral

/-! ### The gap -/

def ZeroRun (groups : List UInt16) (start length : Nat) : Prop :=
  List.replicate length 0 <+: groups.drop start

theorem replicate_prefix_iff {groups : List UInt16} {length : Nat} :
    List.replicate length 0 <+: groups ↔ length ≤ (groups.takeWhile (· == 0)).length := by
  induction groups generalizing length with
  | nil => cases length <;> simp [List.replicate_succ]
  | cons group rest ih =>
      cases length with
      | zero => simp
      | succ length =>
          rw [List.replicate_succ, List.cons_prefix_cons, ih, List.takeWhile_cons]
          by_cases hzero : group = 0
          · simp [hzero]
          · simp [hzero, Ne.symm hzero]

theorem ZeroRun.append {groups : List UInt16} {start length : Nat}
    (run : ZeroRun groups start length) :
    groups.take start ++ (List.replicate length 0 ++ groups.drop (start + length)) = groups := by
  obtain ⟨back, hback⟩ := run
  have hrest : groups.drop (start + length) = back := by
    rw [← List.drop_drop, ← hback, List.drop_left' List.length_replicate]
  rw [hrest, hback, List.take_append_drop]

theorem zeroRun_longestZeroRun (groups : List UInt16) :
    ZeroRun groups (longestZeroRun groups).1 (longestZeroRun groups).2 := by
  induction groups with
  | nil => exact List.prefix_rfl
  | cons group rest ih =>
      rw [longestZeroRun]
      split
      · exact replicate_prefix_iff.mpr le_rfl
      · exact ih

/-- The gap is the first of the longest runs: no run is longer, and none that is as long begins
before it. -/
theorem ZeroRun.le_longest {groups : List UInt16} {start length : Nat}
    (run : ZeroRun groups start length) :
    length < (longestZeroRun groups).2 ∨
      length = (longestZeroRun groups).2 ∧ (longestZeroRun groups).1 ≤ start := by
  induction groups generalizing start with
  | nil =>
      have hlength : length = 0 := by simpa [ZeroRun] using run
      exact .inr ⟨hlength, Nat.zero_le _⟩
  | cons group rest ih =>
      rw [longestZeroRun]
      cases start with
      | zero =>
          have hhere : length ≤ ((group :: rest).takeWhile (· == 0)).length :=
            replicate_prefix_iff.mp run
          split
          · exact hhere.lt_or_eq.imp_right fun heq => ⟨heq, le_rfl⟩
          · exact .inl (by omega)
      | succ start =>
          have hlater := ih run
          split <;> simp only <;> omega

/-! ### Groups -/

def groupChars (group : UInt16) : List Char := Nat.toDigits 16 group.toNat

theorem groupsChars_eq (groups : List UInt16) :
    groupsChars groups = [':'].intercalate (groups.map groupChars) := rfl

theorem groupsChars_singleton (group : UInt16) : groupsChars [group] = groupChars group := by
  rw [groupsChars_eq, List.map_singleton, List.intercalate_singleton]

theorem groupsChars_cons_cons (group next : UInt16) (rest : List UInt16) :
    groupsChars (group :: next :: rest) =
      groupChars group ++ ':' :: groupsChars (next :: rest) := by
  rw [groupsChars_eq, List.map_cons, List.map_cons, List.intercalate_cons_cons, ← List.map_cons,
    ← groupsChars_eq, List.append_assoc, List.singleton_append]

theorem group?_groupChars (group : UInt16) : group? (groupChars group) = some group := by
  have hgroup : group.toNat < 65536 := group.toNat_lt
  have hlength : (groupChars group).length ≤ 4 :=
    (Nat.length_toDigits_le_iff (by decide) (by decide)).mpr (by omega)
  have hread : read? 16 (groupChars group) = some group.toNat :=
    read?_toDigits (by decide) (by decide) _
  rw [group?, if_pos hlength, hread, Option.map_some, UInt16.ofNat_toNat]

theorem groupChars_ne_nil (group : UInt16) : groupChars group ≠ [] := Nat.toDigits_ne_nil

theorem colon_notMem_groupChars (group : UInt16) : ':' ∉ groupChars group :=
  notMem_toDigits (by decide) (by decide) _

theorem dot_notMem_groupChars (group : UInt16) : '.' ∉ groupChars group :=
  notMem_toDigits (by decide) (by decide) _

theorem mapM_group? (groups : List UInt16) :
    (groups.map groupChars).mapM group? = some groups := by
  rw [List.mapM_map, show group? ∘ groupChars = pure from funext group?_groupChars, List.mapM_pure,
    List.map_id', Option.pure_def]

theorem ofFields?_map (groups : List UInt16) :
    ofFields? (groups.map groupChars) = some groups := by
  induction groups with
  | nil => rfl
  | cons group rest ih =>
      cases rest with
      | nil =>
          simp [ofFields?, IPv4.ofChars?_eq_none_of_no_dot (dot_notMem_groupChars group),
            group?_groupChars]
      | cons next rest =>
          simp only [List.map_cons] at ih ⊢
          rw [ofFields?, group?_groupChars]
          · simp [ih]
          · simp

/-! ### Fields between colons -/

theorem splitOn_groupsChars {groups : List UInt16} (hne : groups ≠ []) :
    (groupsChars groups).splitOn ':' = groups.map groupChars := by
  rw [groupsChars_eq]
  apply List.splitOn_intercalate
  · intro field hmem
    obtain ⟨group, -, rfl⟩ := List.mem_map.mp hmem
    exact colon_notMem_groupChars group
  · simpa using hne

theorem sideFields_of_ne_nil {cs : List Char} (hne : cs ≠ []) :
    sideFields cs = cs.splitOn ':' := by
  cases cs with
  | nil => exact absurd rfl hne
  | cons c rest => rfl

theorem exists_groupsChars_cons (group : UInt16) (rest : List UInt16) :
    ∃ c cs, c ≠ ':' ∧ groupsChars (group :: rest) = c :: cs := by
  obtain ⟨c, cs, hcs⟩ := List.exists_cons_of_ne_nil (groupChars_ne_nil group)
  have hc : c ≠ ':' := by
    rintro rfl
    exact colon_notMem_groupChars group (hcs ▸ List.mem_cons_self)
  cases rest with
  | nil => exact ⟨c, cs, hc, by rw [groupsChars_singleton, hcs]⟩
  | cons next rest => exact ⟨c, _, hc, by rw [groupsChars_cons_cons, hcs, List.cons_append]⟩

theorem sideFields_groupsChars (groups : List UInt16) :
    sideFields (groupsChars groups) = groups.map groupChars := by
  cases groups with
  | nil => rfl
  | cons group rest =>
      obtain ⟨c, cs, -, hcs⟩ := exists_groupsChars_cons group rest
      have hne : groupsChars (group :: rest) ≠ [] := by simp [hcs]
      rw [sideFields_of_ne_nil hne, splitOn_groupsChars (List.cons_ne_nil _ _)]

theorem cutAtGap?_cons {c : Char} {cs : List Char} (hgap : ∀ back, c = ':' → cs ≠ ':' :: back) :
    cutAtGap? (c :: cs) = (cutAtGap? cs).map fun cut => (c :: cut.1, cut.2) := by
  rw [cutAtGap?]
  exact hgap

theorem cutAtGap?_append {field : List Char} (hcolon : ':' ∉ field) (rest : List Char) :
    cutAtGap? (field ++ rest) = (cutAtGap? rest).map fun cut => (field ++ cut.1, cut.2) := by
  induction field with
  | nil => simp
  | cons c field ih =>
      rw [List.mem_cons, not_or] at hcolon
      rw [List.cons_append, cutAtGap?_cons, ih hcolon.2, Option.map_map]
      · rfl
      · intro back hc
        exact absurd hc.symm hcolon.1

/-- There is no gap among groups, so their text is cut where what is behind it is. -/
theorem cutAtGap?_groupsChars_append (groups : List UInt16) (rest : List Char) :
    cutAtGap? (groupsChars groups ++ rest) =
      (cutAtGap? rest).map fun cut => (groupsChars groups ++ cut.1, cut.2) := by
  induction groups with
  | nil => simp [groupsChars_eq]
  | cons group others ih =>
      have hfield := cutAtGap?_append (colon_notMem_groupChars group)
      cases others with
      | nil => rw [groupsChars_singleton, hfield]
      | cons next others =>
          obtain ⟨c, cs, hc, hcs⟩ := exists_groupsChars_cons next others
          rw [groupsChars_cons_cons, List.append_assoc, List.cons_append, hfield,
            cutAtGap?_cons, ih]
          · simp [Option.map_map, Function.comp_def]
          · intro back _ hback
            rw [hcs, List.cons_append, List.cons.injEq] at hback
            exact hc hback.1

/-! ### The three forms -/

def mappedGroups (inner : IPv4) : List UInt16 := List.replicate 5 0 ++ 0xffff :: groupsOfIPv4 inner

theorem mapped?_eq_some_iff {addr : IPv6} {inner : IPv4} :
    addr.mapped? = some inner ↔ addr.groups.toList = mappedGroups inner := by
  constructor
  · intro hmapped
    unfold mapped? at hmapped
    split at hmapped
    · rename_i high low hgroups
      cases hmapped
      rw [hgroups, mappedGroups, groupsOfIPv4, ← joined, ← joined, joined_split, joined_split]
      rfl
    · cases hmapped
  · intro hgroups
    have hsplit : addr.mapped? =
        some ⟨(joined inner.a inner.b >>> 8).toUInt8, (joined inner.a inner.b).toUInt8,
          (joined inner.c inner.d >>> 8).toUInt8, (joined inner.c inner.d).toUInt8⟩ := by
      rw [mapped?, hgroups]
      rfl
    rw [hsplit, high_joined, low_joined, high_joined, low_joined]

/-- How an address is written: as the IPv4 address it stands for, else without the first of the
longest runs of two or more zero groups, else with all groups. -/
inductive Written (addr : IPv6) : List Char → Prop where
  | mapped (inner : IPv4) (hgroups : addr.groups.toList = mappedGroups inner) :
      Written addr ("::ffff:".toList ++ inner.toChars)
  | gap (start length : Nat) (hmapped : ∀ inner, addr.groups.toList ≠ mappedGroups inner)
      (hlong : 1 < length) (run : ZeroRun addr.groups.toList start length)
      (hfirst : ∀ other size, ZeroRun addr.groups.toList other size →
        size < length ∨ size = length ∧ start ≤ other) :
      Written addr (groupsChars (addr.groups.toList.take start) ++ [':', ':'] ++
        groupsChars (addr.groups.toList.drop (start + length)))
  | plain (hshort : ∀ start length, ZeroRun addr.groups.toList start length → length ≤ 1) :
      Written addr (groupsChars addr.groups.toList)

theorem written_toChars (addr : IPv6) : addr.Written addr.toChars := by
  rw [toChars]
  cases hmapped : addr.mapped? with
  | some inner => exact .mapped inner (mapped?_eq_some_iff.mp hmapped)
  | none =>
      simp only
      split
      · rename_i hlong
        refine .gap _ _ ?_ hlong (zeroRun_longestZeroRun _) fun _ _ run => run.le_longest
        intro inner hgroups
        rw [mapped?_eq_some_iff.mpr hgroups] at hmapped
        cases hmapped
      · refine .plain fun start length run => ?_
        have hle := run.le_longest
        omega

/-- Whichever run of zeros is left out, the groups are read. -/
theorem ofChars?_gap {groups : List UInt16} {start length : Nat}
    (run : ZeroRun groups start length) (hsize : groups.length = 8) (hpos : 0 < length) :
    ofChars? (groupsChars (groups.take start) ++ [':', ':'] ++
      groupsChars (groups.drop (start + length))) = ofList? groups := by
  set front := groups.take start
  set back := groups.drop (start + length)
  have hgroups : front ++ (List.replicate length 0 ++ back) = groups := run.append
  have hlength : front.length + (length + back.length) = 8 := by
    rw [← hsize, ← hgroups, List.length_append, List.length_append, List.length_replicate]
  have hcut : cutAtGap? (groupsChars front ++ [':', ':'] ++ groupsChars back) =
      some (groupsChars front, groupsChars back) := by
    rw [List.append_assoc, cutAtGap?_groupsChars_append]
    simp [cutAtGap?]
  have hlt : front.length + back.length < 8 := by omega
  have hgap : 8 - front.length - back.length = length := by omega
  simp only [ofChars?, hcut, sideFields_groupsChars, mapM_group?, ofFields?_map, if_pos hlt]
  rw [hgap, List.append_assoc, hgroups]

theorem ofChars?_groupsChars {groups : List UInt16} (hne : groups ≠ []) :
    ofChars? (groupsChars groups) = ofList? groups := by
  have hcut : cutAtGap? (groupsChars groups) = none := by
    have hcut := cutAtGap?_groupsChars_append groups []
    rwa [List.append_nil] at hcut
  rw [ofChars?, hcut, splitOn_groupsChars hne, ofFields?_map, Option.bind_some]

theorem ofChars?_mapped (inner : IPv4) :
    ofChars? ("::ffff:".toList ++ inner.toChars) = ofList? (mappedGroups inner) := by
  have hcolon : ':' ∉ inner.toChars := by
    intro hmem
    have hnone := IPv4.ofChars?_eq_none_of_colon hmem
    rw [IPv4.ofChars?_toChars] at hnone
    cases hnone
  have hjoined : "ffff:".toList ++ inner.toChars =
      [':'].intercalate ["ffff".toList, inner.toChars] := by
    rw [List.intercalate_cons_cons, List.intercalate_singleton]
    rfl
  have hfields : sideFields ("ffff:".toList ++ inner.toChars) = ["ffff".toList, inner.toChars] := by
    rw [sideFields_of_ne_nil (by simp), hjoined]
    exact List.splitOn_intercalate ':' (by simpa using hcolon) (List.cons_ne_nil _ _)
  have hread : ofFields? ["ffff".toList, inner.toChars] = some (0xffff :: groupsOfIPv4 inner) := by
    have hfront : group? "ffff".toList = some 0xffff := by decide
    rw [ofFields?, hfront]
    · simp only [ofFields?, IPv4.ofChars?_toChars, Option.map_some]
    · simp
  have hcut : cutAtGap? ("::ffff:".toList ++ inner.toChars) =
      some ([], "ffff:".toList ++ inner.toChars) := rfl
  simp only [ofChars?, hcut, hfields, hread]
  rfl

theorem Written.ofChars?_eq {addr : IPv6} {cs : List Char} (hwritten : addr.Written cs) :
    ofChars? cs = some addr := by
  rw [← ofList?_toList addr]
  cases hwritten with
  | mapped inner hgroups => rw [ofChars?_mapped, hgroups]
  | gap start length _ hlong run _ =>
      exact ofChars?_gap run Vector.length_toList (by omega)
  | plain => exact ofChars?_groupsChars (by simp)

/-- An IPv6 address is what its text reads as. -/
theorem ofChars?_toChars (addr : IPv6) : ofChars? addr.toChars = some addr :=
  addr.written_toChars.ofChars?_eq

theorem Written.colon_mem {addr : IPv6} {cs : List Char} (hwritten : addr.Written cs) :
    ':' ∈ cs := by
  cases hwritten with
  | mapped inner _ => exact List.mem_append_left _ (by decide)
  | gap => simp
  | plain =>
      obtain ⟨⟨⟨groups⟩, hsize⟩⟩ := addr
      match groups, hsize with
      | group :: next :: rest, _ =>
          change ':' ∈ groupsChars (group :: next :: rest)
          rw [groupsChars_cons_cons]
          exact List.mem_append_right _ List.mem_cons_self

end Multicast.IPv6
