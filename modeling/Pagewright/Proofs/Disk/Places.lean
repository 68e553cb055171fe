/-
# Places below a base

A text is cut into pieces without separators, and they give it back (`splitWhere_eq_splitOn`). So a
path is known by its segments (`segments_injective`). A name that a path is joined with comes
behind the components of the path, whether the path is empty, a root, or ends with a separator
(`components_join`). So the components of a path below a base are those of the base and the segments
of the path, if these are names: the place that a path leads to below a base is the same for every
base (`fromBase?_below`).
-/

import Pagewright.Disk.Path
import Pagewright.Proofs.Project.Paths
import Mathlib.Data.List.Basic

namespace Pagewright

namespace Text

/-- Cutting a text at a character is splitting its characters there. -/
theorem splitWhere_eq_splitOn (c : Char) (s : List Char) :
    splitWhere (· == c) s = s.splitOn c := by
  induction s with
  | nil => rfl
  | cons d s ih =>
    obtain ⟨first, rest, hsplit⟩ := List.exists_cons_of_ne_nil (splitWhere_ne_nil (· == c) s)
    rw [List.splitOn, List.splitOnP_cons_eq_if_modifyHead, ← List.splitOn, ← ih, splitWhere, hsplit]
    rfl

/-- **Nothing is lost by cutting.** -/
theorem splitWhere_injective (c : Char) : Function.Injective (splitWhere (· == c)) := by
  intro a b h
  have hback (s : List Char) : [c].intercalate (s.splitOn c) = s := List.intercalate_splitOn c
  rw [splitWhere_eq_splitOn, splitWhere_eq_splitOn] at h
  rw [← hback a, h, hback]

end Text

namespace Path

/-- A component that is one segment. -/
structure IsName (name : String) : Prop where
  separator : '/' ∉ name.toList
  component : isComponent name = true

variable {base path name : String}

/-- A path is told by its segments. -/
theorem segments_injective : Function.Injective segments := by
  intro a b h
  have hpieces := List.map_injective_iff.2 (fun _ _ => String.ofList_injective) h
  exact String.toList_inj.1 (Text.splitWhere_injective '/' hpieces)

/-- The segments of two paths with a slash between them are those of both. -/
theorem segments_append (a b : String) : segments (a ++ "/" ++ b) = segments a ++ segments b := by
  have h := congrArg (List.map String.ofList) (Project.segments_append a b)
  rwa [List.map_append] at h

namespace IsName

/-- A name is not empty. -/
theorem ne_empty (h : IsName name) : name ≠ "" := by
  rintro rfl
  exact absurd h.component (by decide)

/-- A name is the only segment of itself. -/
theorem segments_eq (h : IsName name) : segments name = [name] := by
  rw [segments, Text.splitWhere_of_not_mem h.separator]
  simp

/-- A name is not absolute. -/
theorem not_isAbsolute (h : IsName name) : isAbsolute name = false := by
  rw [isAbsolute, beq_eq_false_iff_ne]
  exact fun hhead => h.separator (List.mem_of_mem_head? hhead)

end IsName

/-- A path that continues another is absolute if the other is. -/
theorem isAbsolute_append (h : base ≠ "") (path : String) :
    isAbsolute (base ++ path) = isAbsolute base := by
  rw [isAbsolute, isAbsolute, String.toList_append, List.head?_append_of_ne_nil]
  exact fun hnil => h (String.toList_eq_nil_iff.1 hnil)

/-- A path has a first segment. -/
theorem segments_eq_cons (path : String) : ∃ first rest, segments path = first :: rest :=
  List.exists_cons_of_ne_nil fun h =>
    Text.splitWhere_ne_nil _ _ (List.map_eq_nil_iff.1 h)

/-- A path has a last segment. -/
theorem segments_eq_concat (path : String) : ∃ init last, segments path = init ++ [last] := by
  rcases List.eq_nil_or_concat (segments path) with hnil | ⟨init, last, hlast⟩
  · obtain ⟨first, rest, hfirst⟩ := segments_eq_cons path
    cases hfirst.symm.trans hnil
  · exact ⟨init, last, hlast.trans List.concat_eq_append⟩

/-- **The components of a path:** the root or the first segment, and then those that name
something. -/
theorem components_eq {first : String} {rest : List String} (h : segments path = first :: rest) :
    components path = (if isAbsolute path then ["/"] else if first.isEmpty then [] else [first]) ++
      rest.filter isComponent := by
  rw [components, h]

/-- A slash at the end is followed by an empty segment. -/
theorem segments_separator (front : String) : segments (front ++ "/") = segments front ++ [""] := by
  have h := segments_append front ""
  rwa [String.append_empty] at h

/-- **A segment behind a separator** is one more component, if it is one. -/
theorem components_append (front : String) {last : String} (hlast : '/' ∉ last.toList) :
    components (front ++ "/" ++ last) = components (front ++ "/") ++ [last].filter isComponent := by
  obtain ⟨first, rest, hfirst⟩ := segments_eq_cons front
  have hold : segments (front ++ "/") = first :: (rest ++ [""]) := by
    rw [segments_separator, hfirst, List.cons_append]
  have hnew : segments (front ++ "/" ++ last) = first :: (rest ++ [last]) := by
    have hone : segments last = [last] := by
      rw [segments, Text.splitWhere_of_not_mem hlast]
      simp
    rw [segments_append, hfirst, hone, List.cons_append]
  have hidle : [""].filter isComponent = [] := rfl
  have hne : front ++ "/" ≠ "" := fun h => absurd (String.append_eq_empty_iff.1 h).2 (by decide)
  rw [components_eq hold, components_eq hnew, isAbsolute_append hne, List.filter_append,
    List.filter_append, hidle, List.append_nil, List.append_assoc]

/-- **A separator at the end** says nothing, except in front of everything. -/
theorem components_separator (h : base ≠ "") : components (base ++ "/") = components base := by
  obtain ⟨first, rest, hfirst⟩ := segments_eq_cons base
  have hnew : segments (base ++ "/") = first :: (rest ++ [""]) := by
    rw [segments_separator, hfirst, List.cons_append]
  have hidle : [""].filter isComponent = [] := rfl
  rw [components_eq hfirst, components_eq hnew, isAbsolute_append h, List.filter_append, hidle,
    List.append_nil]

/-- **A name that a path is joined with** stands behind a separator, which is added unless the path
ends with one; an empty path goes. -/
theorem join_cases (hname : IsName name) (base : String) :
    (base = "" ∧ join base name = name) ∨
      ∃ front, join base name = front ++ "/" ++ name ∧
        components (front ++ "/") = components base := by
  by_cases hbase : base = ""
  · subst hbase
    exact .inl ⟨rfl, if_pos (Bool.or_true _)⟩
  · have hempty : base.isEmpty = false := by simpa using hbase
    rw [join, hname.not_isAbsolute, hempty, if_neg (by decide)]
    split
    · next hend =>
      obtain ⟨before, hbefore⟩ := List.getLast?_eq_some_iff.1 (beq_iff_eq.1 hend)
      have hcut : base = String.ofList before ++ "/" := by
        rw [← String.ofList_toList (s := base), hbefore, String.ofList_append]
      exact .inr ⟨String.ofList before, by rw [hcut], by rw [hcut]⟩
    · exact .inr ⟨base, rfl, components_separator hbase⟩

/-- **A name that a path is joined with** comes behind the components of the path. -/
theorem components_join (hname : IsName name) (base : String) :
    components (join base name) = components base ++ [name] := by
  have hkept : [name].filter isComponent = [name] := List.filter_cons_of_pos hname.component
  rcases join_cases hname base with ⟨rfl, hjoin⟩ | ⟨front, hjoin, hfront⟩
  · have hempty : name.isEmpty = false := by simpa using hname.ne_empty
    rw [hjoin, components_eq hname.segments_eq, hname.not_isAbsolute, hempty]
    rfl
  · rw [hjoin, components_append front hname.separator, hkept, hfront]

/-- Names that are joined one after the other lead on from the base. -/
theorem components_foldl_join {names : List String} (h : ∀ name ∈ names, IsName name)
    (base : String) : components (names.foldl join base) = components base ++ names := by
  induction names generalizing base with
  | nil => rw [List.foldl_nil, List.append_nil]
  | cons name names ih =>
    rw [List.forall_mem_cons] at h
    rw [List.foldl_cons, ih h.2, components_join h.1, List.append_assoc, List.singleton_append]

/-- **The segments of a safe path** are names. -/
theorem isName_of_isSafe (h : Project.IsSafe path) : ∀ name ∈ segments path, IsName name := by
  intro name hname
  obtain ⟨piece, hpiece, rfl⟩ := List.mem_map.1 hname
  obtain ⟨hnil, hdot, -⟩ := h piece hpiece
  have hlists {l : List Char} (hne : piece ≠ l) : String.ofList piece ≠ String.ofList l :=
    fun heq => hne (String.ofList_injective heq)
  constructor
  · rw [String.toList_ofList]
    exact Text.not_mem_of_mem_splitWhere hpiece
  · rw [isComponent, Bool.and_eq_true, bne_iff_ne, Bool.not_eq_true', String.isEmpty_eq_false_iff]
    exact ⟨hlists hnil, hlists hdot⟩

/-- No segment of a safe path is empty. -/
theorem filter_segments (h : Project.IsSafe path) :
    (segments path).filter (fun s => !s.isEmpty) = segments path :=
  List.filter_eq_self.2 fun name hmem => by simpa using (isName_of_isSafe h name hmem).ne_empty

/-- **Below a base** a safe path leads on by its segments. -/
theorem components_below (h : Project.IsSafe path) (base : String) :
    components (below base path) = components base ++ segments path := by
  rw [below, filter_segments h, components_foldl_join (isName_of_isSafe h)]

/-- The components that lead from a base to a path, if the path is below the base. -/
def fromBase? (base path : String) : Option (List String) :=
  (components path).dropPrefix? (components base)

/-- **Where a safe path leads to below a base** is the same for every base. -/
theorem fromBase?_below (h : Project.IsSafe path) (base : String) :
    fromBase? base (below base path) = some (segments path) :=
  List.dropPrefix?_eq_some_iff.2 ⟨components base, components_below h base, beq_self_eq_true _⟩

end Path
end Pagewright
