import Multicast.Config.Document
import Multicast.Proofs.Except

/-!
# What a configuration promises

Reading a document never gives the unspecified address as a host, and a configuration that passes
its check has entries whose traffic can leave, and leaves by interfaces of other names than the one
it arrives on.
-/

namespace Multicast

/-! ### Reading records -/

namespace Reader.Shape

variable {ρ : Type} {shape : Shape ρ} {keeps : ρ → Prop}

theorem keeps_recordEntries
    (hfield : ∀ field ∈ shape.fields, ∀ value before after, keeps before →
      field.record value before = .ok after → keeps after)
    {entries : List (String × Toml.Value)} {before after : ρ} (hbefore : keeps before)
    (hok : shape.recordEntries entries before = .ok after) : keeps after := by
  fun_induction recordEntries shape entries before with
  | case1 before =>
      cases hok
      exact hbefore
  | case2 key value rest before field hfind ih =>
      obtain ⟨middle, hmiddle, hrest⟩ := bind_eq_ok_iff.mp hok
      have hmem := List.mem_of_find?_eq_some hfind
      exact ih middle (hfield field hmem value before middle hbefore hmiddle) hrest
  | case3 key value rest before hfind ih =>
      obtain ⟨-, -, hrest⟩ := bind_eq_ok_iff.mp hok
      exact ih hbefore hrest

theorem keeps_recordItems {fields : List (Field ρ)}
    (hfield : ∀ field ∈ fields, ∀ value before after, keeps before →
      field.record value before = .ok after → keeps after)
    {items : List Toml.Value} {before after : ρ} (hbefore : keeps before)
    (hok : shape.recordItems fields items before = .ok after) : keeps after := by
  fun_induction recordItems shape fields items before with
  | case1 field fields value rest before ih =>
      obtain ⟨middle, hmiddle, hrest⟩ := bind_eq_ok_iff.mp hok
      refine ih middle (fun other hmem => hfield other (List.mem_cons_of_mem _ hmem)) ?_ hrest
      exact hfield field List.mem_cons_self value before middle hbefore hmiddle
  | case2 =>
      cases hok
      exact hbefore

theorem keeps_read (keeps : ρ → Prop)
    (hfield : ∀ field ∈ shape.fields, ∀ value before after, keeps before →
      field.record value before = .ok after → keeps after)
    {defaults record : ρ} {value : Toml.Value} (hdefaults : keeps defaults)
    (hok : shape.read defaults value = .ok record) : keeps record := by
  unfold Shape.read at hok
  split at hok
  · obtain ⟨after, hafter, hrest⟩ := bind_eq_ok_iff.mp hok
    split at hrest
    · cases hrest
    · cases hrest
      exact keeps_recordEntries hfield hdefaults hafter
  · obtain ⟨after, hafter, hrest⟩ := bind_eq_ok_iff.mp hok
    split at hrest
    · cases hrest
    · cases hrest
      exact keeps_recordItems hfield hdefaults hafter
  · cases hok

end Reader.Shape

/-! ### Hosts -/

/-- The unspecified address is no host: sources are read like this. -/
def Source.Specified (source : Source) : Prop :=
  ∀ addr ∈ source.host?, addr.isUnspecified = false

instance (source : Source) : Decidable source.Specified :=
  inferInstanceAs (Decidable (∀ addr ∈ source.host?, addr.isUnspecified = false))

theorem Source.specified_ofAddress (addr : Address) : (ofAddress addr).Specified := by
  intro host hhost
  cases hunspecified : addr.isUnspecified with
  | true => simp [ofAddress, host?, hunspecified] at hhost
  | false =>
      have haddr : addr = host := by simpa [ofAddress, host?, hunspecified] using hhost
      rwa [← haddr]

theorem Source.specified_ofText {text : String} {source : Source} (hok : ofText text = .ok source) :
    source.Specified := by
  unfold ofText at hok
  split at hok
  · cases hok
    exact fun addr hhost => by simp [host?] at hhost
  · split at hok
    · cases hok
      exact specified_ofAddress _
    · cases hok

theorem Reader.exists_of_parsed {α : Type} {parse : String → Except InputError α}
    {value : Toml.Value} {result : α} (hok : Reader.parsed parse value = .ok result) :
    ∃ text, parse text = .ok result := by
  unfold Reader.parsed at hok
  split at hok
  · exact ⟨_, mapError_eq_ok_iff.mp hok⟩
  · cases hok

theorem RouteEntry.specified_record {field : Reader.Field Draft} (hmem : field ∈ shape.fields)
    {value : Toml.Value} {before after : Draft} (hbefore : before.source.Specified)
    (hok : field.record value before = .ok after) : after.source.Specified := by
  simp only [shape, List.mem_cons, List.not_mem_nil, or_false] at hmem
  rcases hmem with rfl | rfl | rfl | rfl | rfl
  · obtain ⟨source, hsource, hafter⟩ := bind_eq_ok_iff.mp hok
    obtain ⟨text, htext⟩ := Reader.exists_of_parsed hsource
    cases hafter
    exact Source.specified_ofText htext
  -- no other field touches the source
  all_goals
    obtain ⟨read, -, hafter⟩ := bind_eq_ok_iff.mp hok
    cases hafter
    exact hbefore

theorem RouteEntry.specified_read {value : Toml.Value} {entry : RouteEntry}
    (hok : RouteEntry.read value = .ok entry) : entry.source.Specified := by
  obtain ⟨draft, hdraft, hrest⟩ := bind_eq_ok_iff.mp hok
  have hspecified : draft.source.Specified :=
    Reader.Shape.keeps_read (fun draft : Draft => draft.source.Specified)
      (fun _ hmem _ _ _ hbefore => specified_record hmem hbefore) (by decide) hdraft
  split at hrest
  · cases hrest
    exact hspecified
  · cases hrest

theorem Reader.of_mem_list {α : Type} {reader : Reader α} {value : Toml.Value} {results : List α}
    (hok : Reader.list reader value = .ok results) {result : α} (hmem : result ∈ results) :
    ∃ item, reader item = .ok result := by
  unfold Reader.list at hok
  split at hok
  · obtain ⟨item, -, hitem⟩ := (exists_of_mapM_eq_ok hok).1 result hmem
    exact ⟨item, hitem⟩
  · cases hok

theorem Config.specified_record {field : Reader.Field Config} (hmem : field ∈ shape.fields)
    {value : Toml.Value} {before after : Config}
    (hbefore : ∀ entry ∈ before.routes, entry.source.Specified)
    (hok : field.record value before = .ok after) :
    ∀ entry ∈ after.routes, entry.source.Specified := by
  simp only [shape, List.mem_cons, List.not_mem_nil, or_false] at hmem
  rcases hmem with rfl | rfl
  · obtain ⟨daemon, -, hafter⟩ := bind_eq_ok_iff.mp hok
    cases hafter
    exact hbefore
  · obtain ⟨routes, hroutes, hafter⟩ := bind_eq_ok_iff.mp hok
    cases hafter
    intro entry hentry
    obtain ⟨item, hitem⟩ := Reader.of_mem_list hroutes hentry
    exact RouteEntry.specified_read hitem

theorem Config.specified_ofText {text : String} {config : Config} (hok : ofText text = .ok config) :
    ∀ entry ∈ config.routes, entry.source.Specified := by
  unfold ofText at hok
  split at hok
  · cases hok
  · rw [mapError_eq_ok_iff] at hok
    exact Reader.Shape.keeps_read
      (fun config : Config => ∀ entry ∈ config.routes, entry.source.Specified)
      (fun _ hmem _ _ _ hbefore => specified_record hmem hbefore) (by simp) hok

/-! ### Valid entries -/

namespace RouteEntry

theorem of_validate_eq_ok {entry : RouteEntry} (hvalid : entry.validate = .ok ()) :
    entry.outbound ≠ [] ∧ entry.inbound ∉ entry.outbound ∧ entry.ttl ≠ some 0 := by
  unfold validate refuse at hvalid
  split at hvalid
  · cases hvalid
  · split at hvalid
    · cases hvalid
    · split at hvalid
      · cases hvalid
      · split at hvalid
        · cases hvalid
        · split at hvalid
          · cases hvalid
          · simp_all

theorem ttlOr_pos {entry : RouteEntry} {defaultTtl : UInt8} (hdefault : defaultTtl ≠ 0)
    (httl : entry.ttl ≠ some 0) : 0 < entry.ttlOr defaultTtl := by
  rw [UInt8.pos_iff_ne_zero]
  cases hcase : entry.ttl with
  | none => simpa [ttlOr, hcase] using hdefault
  | some ttl =>
      rw [hcase] at httl
      simpa [ttlOr, hcase] using httl

end RouteEntry

theorem Config.of_validate_eq_ok {config : Config} (hvalid : config.validate = .ok ()) :
    config.daemon.defaultTtl ≠ 0 ∧ ∀ entry ∈ config.routes, entry.validate = .ok () := by
  unfold validate at hvalid
  split at hvalid
  · cases hvalid
  · exact ⟨‹_›, forM_eq_ok_iff.mp hvalid⟩

end Multicast
