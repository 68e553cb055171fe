/-
# Paths that can be written

The paths of a project are written below an output directory. That goes well if each
is a list of names, none of which leads elsewhere, if no path is there twice, and if no
file stands where another path needs a directory (`Writable`). A path is read as its
segments; the segments of a path below another begin with those of the other
(`segments_append`).
-/

import Pagewright.Text.Search

namespace Pagewright
namespace Project

/-- The segments of a path. -/
def segments (path : String) : List (List Char) := Text.splitWhere (· == '/') path.toList

theorem segments_of_not_mem {s : String} (h : '/' ∉ s.toList) : segments s = [s.toList] :=
  Text.splitWhere_of_not_mem h

/-- The segments of two paths with a slash between them are those of both. -/
theorem segments_append (a b : String) : segments (a ++ "/" ++ b) = segments a ++ segments b := by
  rw [segments, String.toList_append, String.toList_append, List.append_assoc]
  exact Text.splitWhere_append rfl a.toList b.toList

theorem segments_ne_nil (path : String) : segments path ≠ [] := Text.splitWhere_ne_nil _ _

/-- A path that stays below the directory it is written to: its segments are not empty, and none
of them names the directory itself or the one above. -/
def IsSafe (path : String) : Prop :=
  ∀ s ∈ segments path, s ≠ [] ∧ s ≠ ['.'] ∧ s ≠ ['.', '.']

instance (path : String) : Decidable (IsSafe path) :=
  inferInstanceAs (Decidable (∀ s ∈ segments path, _))

/-- Paths that can be written below one directory, whatever the order. -/
structure Writable (paths : List String) : Prop where
  distinct : paths.Nodup
  safe : ∀ path ∈ paths, IsSafe path
  /-- No path is a directory of another one. -/
  apart : ∀ a ∈ paths, ∀ b ∈ paths, ∀ rest, b ≠ a ++ "/" ++ rest

end Project
end Pagewright
