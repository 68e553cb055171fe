/-
# Bytes of a text

A text is found by its characters and pointed at by its bytes. A search gives what stands in
front of the first occurrence (`before?_eq_some`), and fails only where there is none
(`before?_eq_none_iff`); a text in the middle of another then takes up the bytes behind those of
what stands in front of it (`extract_middle`), from one boundary between characters to another
(`isValid_start`, `isValid_stop`). Listed one by one, bytes are those of their array
(`toList_bytes`).
-/

import Pagewright.Text.Search
import Mathlib.Data.List.Infix

namespace Pagewright
namespace Text

/-! ## Occurrences -/

/-- **What was searched for** stands behind what was skipped. -/
theorem before?_eq_some {p s skipped : List Char} (h : before? p s = some skipped) :
    ∃ rest, s = skipped ++ (p ++ rest) := by
  induction s generalizing skipped with
  | nil =>
    rw [before?] at h
    split at h
    · next hp =>
      obtain rfl := Option.some.inj h
      exact ⟨[], by simpa using hp.symm⟩
    · cases h
  | cons c s ih =>
    rw [before?] at h
    split at h
    · next hp =>
      obtain rfl := Option.some.inj h
      obtain ⟨rest, hrest⟩ := List.isPrefixOf_iff_prefix.1 hp
      exact ⟨rest, hrest.symm⟩
    · obtain ⟨skipped, hskipped, rfl⟩ := Option.map_eq_some_iff.1 h
      obtain ⟨rest, rfl⟩ := ih hskipped
      exact ⟨rest, rfl⟩

/-- **A search fails** exactly if the pattern does not occur. -/
theorem before?_eq_none_iff {p s : List Char} : before? p s = none ↔ ¬ p <:+: s := by
  induction s with
  | nil =>
    rw [List.infix_nil, ← List.isEmpty_iff, before?]
    cases p.isEmpty <;> simp
  | cons c s ih =>
    rw [before?, List.infix_cons_iff, ← List.isPrefixOf_iff_prefix]
    split
    · next hp => simp [hp]
    · next hp => rw [Option.map_eq_none_iff, ih, or_iff_right hp]

/-! ## Boundaries -/

/-- The size of a text is the number of bytes of its characters. -/
theorem utf8ByteSize_ofList (s : List Char) : (String.ofList s).utf8ByteSize = utf8Length s := by
  induction s with
  | nil => rfl
  | cons c s ih =>
    rw [← List.singleton_append, String.ofList_append, String.utf8ByteSize_append, ih,
      ← String.singleton_eq_ofList, String.utf8ByteSize_singleton]
    rfl

theorem utf8Length_toList (s : String) : utf8Length s.toList = s.utf8ByteSize := by
  rw [← utf8ByteSize_ofList, String.ofList_toList]

/-- Listing bytes from a place on appends those behind it. -/
theorem toList_loop (bytes : ByteArray) (i : Nat) (listed : List UInt8) :
    ByteArray.toList.loop bytes i listed = listed.reverse ++ bytes.data.toList.drop i := by
  fun_induction ByteArray.toList.loop bytes i listed with
  | case1 i listed h ih =>
    have hi : i < bytes.data.size := h
    have hget : bytes.get! i = bytes.data.toList.get ⟨i, hi⟩ := by
      rw [ByteArray.get!, getElem!_pos bytes.data i hi, List.get_eq_getElem, Array.getElem_toList]
    rw [ih, List.reverse_cons, List.append_assoc, List.singleton_append, hget,
      List.drop_eq_getElem_cons hi, List.get_eq_getElem]
  | case2 i listed h =>
    rw [List.drop_eq_nil_of_le (Nat.le_of_not_lt h), List.append_nil]

/-- The bytes of a text are listed in order. -/
theorem toList_bytes (bytes : ByteArray) : bytes.toList = bytes.data.toList :=
  (toList_loop bytes 0 []).trans (List.nil_append _)

variable (a s b : String)

/-- The bytes of a text in the middle of another. -/
theorem extract_middle :
    (a ++ s ++ b).toByteArray.extract a.utf8ByteSize (a.utf8ByteSize + s.utf8ByteSize) =
      s.toByteArray := by
  rw [String.append_assoc, String.toByteArray_append, String.toByteArray_append,
    ← Nat.add_zero a.utf8ByteSize, Nat.add_assoc,
    ByteArray.extract_append_size_add' a.size_toByteArray.symm, Nat.zero_add,
    ByteArray.extract_append_eq_left s.size_toByteArray.symm]

/-- Between two texts a position is valid where the second begins. -/
theorem isValid_start : String.Pos.Raw.IsValid (a ++ s ++ b) ⟨a.utf8ByteSize⟩ :=
  String.Pos.Raw.isValid_iff_exists_append.2 ⟨a, s ++ b, String.append_assoc, rfl⟩

/-- And so is one where it ends. -/
theorem isValid_stop :
    String.Pos.Raw.IsValid (a ++ s ++ b) ⟨a.utf8ByteSize + s.utf8ByteSize⟩ := by
  refine String.Pos.Raw.isValid_iff_exists_append.2 ⟨a ++ s, b, rfl, ?_⟩
  rw [String.Pos.Raw.ext_iff, String.byteIdx_rawEndPos, String.utf8ByteSize_append]

end Text
end Pagewright
