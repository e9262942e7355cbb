import Multicast.Address.IPv4
import Multicast.Proofs.Text.Numeral

/-!
# The text of an IPv4 address

An IPv4 address is what its text reads as, and what reads as one is digits and dots.
-/

namespace Multicast.IPv4

open Numeral

theorem octet?_octetChars (octet : UInt8) : octet? (octetChars octet) = some octet := by
  have hoctet : octet.toNat < 256 := octet.toNat_lt
  have hlength : (octetChars octet).length ≤ 3 :=
    (Nat.length_toDigits_le_iff (by decide) (by decide)).mpr (by omega)
  have hfront :
      ((octetChars octet).head? != some '0' || (octetChars octet).length == 1) = true := by
    rw [Bool.or_eq_true, bne_iff_ne, beq_iff_eq]
    by_cases hhead : (octetChars octet).head? = some '0'
    · have hzero := eq_zero_of_head?_toDigits (by decide) (by decide) octet.toNat hhead
      exact .inr (by rw [octetChars, hzero]; rfl)
    · exact .inl hhead
  have hread : read? 10 (octetChars octet) = some octet.toNat :=
    read?_toDigits (by decide) (by decide) _
  rw [octet?, hfront, hread]
  simp [hlength, hoctet]

theorem dot_notMem_octetChars (octet : UInt8) : '.' ∉ octetChars octet :=
  notMem_toDigits (by decide) (by decide) _

theorem ofChars?_toChars (addr : IPv4) : ofChars? addr.toChars = some addr := by
  have hsplit : addr.toChars.splitOn '.' = addr.octets.toList.map octetChars := by
    apply List.splitOn_intercalate
    · intro field hmem
      obtain ⟨octet, -, rfl⟩ := List.mem_map.mp hmem
      exact dot_notMem_octetChars octet
    · simp [octets]
  rw [ofChars?, hsplit]
  simp [octets, octet?_octetChars]

theorem isSome_digit?_of_octet? {field : List Char} {octet : UInt8}
    (hread : octet? field = some octet) : ∀ c ∈ field, (digit? 10 c).isSome = true := by
  unfold octet? at hread
  split at hread
  · split at hread
    · exact isSome_digit?_of_read? ‹_›
    · cases hread
  · cases hread

theorem mem_of_mem_intercalate {sep c : Char} {fields : List (List Char)}
    (hmem : c ∈ [sep].intercalate fields) : c = sep ∨ ∃ field ∈ fields, c ∈ field := by
  induction fields with
  | nil => simp at hmem
  | cons field rest ih =>
      cases rest with
      | nil => exact .inr ⟨field, List.mem_cons_self, by simpa using hmem⟩
      | cons next rest =>
          rw [List.intercalate_cons_cons, List.mem_append, List.mem_append,
            List.mem_singleton] at hmem
          rcases hmem with (hfield | hsep) | hrest
          · exact .inr ⟨field, List.mem_cons_self, hfield⟩
          · exact .inl hsep
          · refine (ih hrest).imp_right ?_
            rintro ⟨other, hother, hc⟩
            exact ⟨other, List.mem_cons_of_mem _ hother, hc⟩

theorem exists_octet?_of_mapM {fields : List (List Char)} {octets : List UInt8}
    (hread : fields.mapM octet? = some octets) :
    ∀ field ∈ fields, ∃ octet, octet? field = some octet := by
  induction fields generalizing octets with
  | nil => simp
  | cons field rest ih =>
      simp only [List.mapM_cons, Option.bind_eq_bind, Option.bind_eq_some_iff] at hread
      obtain ⟨octet, hoctet, others, hothers, -⟩ := hread
      exact List.forall_mem_cons.mpr ⟨⟨octet, hoctet⟩, ih hothers⟩

theorem dot_or_digit_of_ofChars? {cs : List Char} {addr : IPv4} (hread : ofChars? cs = some addr)
    {c : Char} (hmem : c ∈ cs) : c = '.' ∨ (digit? 10 c).isSome = true := by
  unfold ofChars? at hread
  split at hread
  · rename_i hoctets
    have hjoined : ['.'].intercalate (cs.splitOn '.') = cs := List.intercalate_splitOn '.'
    rw [← hjoined] at hmem
    refine (mem_of_mem_intercalate hmem).imp_right ?_
    rintro ⟨field, hfield, hc⟩
    obtain ⟨octet, hoctet⟩ := exists_octet?_of_mapM hoctets field hfield
    exact isSome_digit?_of_octet? hoctet c hc
  · cases hread

theorem ofChars?_eq_none_of_colon {cs : List Char} (hcolon : ':' ∈ cs) : ofChars? cs = none := by
  rw [Option.eq_none_iff_forall_ne_some]
  intro addr hread
  have hnot := dot_or_digit_of_ofChars? hread hcolon
  revert hnot
  decide

theorem ofChars?_eq_none_of_no_dot {cs : List Char} (hdot : '.' ∉ cs) : ofChars? cs = none := by
  have hsplit : cs.splitOn '.' = [cs] := by
    have hsingle : (['.'].intercalate [cs]).splitOn '.' = [cs] :=
      List.splitOn_intercalate '.' (by simpa using hdot) (List.cons_ne_nil _ _)
    rwa [List.intercalate_singleton] at hsingle
  rw [ofChars?, hsplit]
  cases hoctet : octet? cs <;> simp [hoctet]

end Multicast.IPv4
