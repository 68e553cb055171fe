/-
# The directories of pages

Pages are placed one after the other, each in a directory named for it. A name that an
earlier page took gets a number behind it, from 2 on, the first that is free. The
numbered names of one name are distinct, and the name itself is another one, so of
`n + 1` of these names one is free when `n` are taken: the search ends
(`assigned_freeName`). It never picks a taken name, so a later page may well be called
`home-2` itself, before or behind the page that gets this name for another reason:
all directories are distinct (`nodup_placePages`).

A directory name is not empty and consists of `a`–`z`, `0`–`9`, `_` and `-`
(`isSegment_of_mem_placePages`), whatever the pages are called.
-/

import Pagewright.Generation.Project
import Pagewright.Proofs.Text.Names
import Mathlib.Data.List.Nodup
import Mathlib.Data.List.Perm.Subperm

namespace Pagewright
namespace Generation

open Naming (directoryName isAsciiDigit isAsciiLower isDirectoryChar)

/-! ## Numbered names -/

/-- A name with two different numbers gives two names. -/
theorem numbered_injective (name : String) : Function.Injective (numbered name) := by
  intro m n h
  rw [numbered, numbered, String.append_right_inj, Nat.toString_eq_ofList_toDigits,
    Nat.toString_eq_ofList_toDigits, String.ofList_inj] at h
  have hread := congrArg (fun digits => Nat.ofDigitChars 10 digits 0) h
  simpa using hread

/-- A numbered name is longer than the name. -/
theorem numbered_ne_self (name : String) (n : Nat) : numbered name n ≠ name := by
  intro h
  have hlength := congrArg String.length h
  rw [numbered, String.length_append, String.length_append] at hlength
  have hdash : "-".length = 1 := rfl
  omega

/-- **Numbered names are used up one by one:** where a name and `k` of its numbered names are
taken, more than `k` names are. -/
theorem lt_length_of_numbered_mem {taken : List String} {name : String} {k : Nat}
    (hname : name ∈ taken) (h : ∀ i < k, numbered name (i + 2) ∈ taken) : k < taken.length := by
  have hnodup : (name :: (List.range k).map fun i => numbered name (i + 2)).Nodup := by
    refine List.nodup_cons.2 ⟨?_, List.nodup_range.map fun i j hij => ?_⟩
    · intro hm
      obtain ⟨i, -, hi⟩ := List.mem_map.1 hm
      exact numbered_ne_self name (i + 2) hi
    · exact Nat.add_right_cancel (numbered_injective name hij)
  have hsubset : (name :: (List.range k).map fun i => numbered name (i + 2)) ⊆ taken := by
    intro s hs
    rcases List.mem_cons.1 hs with rfl | hs
    · exact hname
    · obtain ⟨i, hi, rfl⟩ := List.mem_map.1 hs
      exact h i (List.mem_range.1 hi)
  have hlength := (hnodup.subperm hsubset).length_le
  rw [List.length_cons, List.length_map, List.length_range] at hlength
  exact hlength

/-! ## The free name -/

/-- The directory that a page gets for its name where others are taken: the name itself if it
is free, else the numbered one with the least number, from 2 on, that is free. The name
counted, no more candidates are tried than there are taken names and one. -/
def Assigned (taken : List String) (name dir : String) : Prop :=
  name ∉ taken ∧ dir = name ∨
    name ∈ taken ∧ ∃ n, 2 ≤ n ∧ n ≤ taken.length + 1 ∧ dir = numbered name n ∧
      numbered name n ∉ taken ∧ ∀ k, 2 ≤ k → k < n → numbered name k ∈ taken

variable {taken : List String} {name dir : String}

/-- An assigned directory is not taken. -/
theorem Assigned.not_mem (h : Assigned taken name dir) : dir ∉ taken := by
  rcases h with ⟨hn, rfl⟩ | ⟨-, n, -, -, rfl, hn, -⟩
  · exact hn
  · exact hn

/-- **The search finds what it is for.** -/
theorem assigned_freeName (taken : List String) (name : String) :
    Assigned taken name (freeName taken name) := by
  unfold freeName
  by_cases hname : name ∈ taken
  · rw [if_pos (List.contains_iff_mem.2 hname), List.find?_map]
    cases hfind : (List.range (taken.length + 1)).find?
        ((fun candidate => !taken.contains candidate) ∘ fun i => numbered name (i + 2)) with
    | none =>
      have hall : ∀ i < taken.length + 1, numbered name (i + 2) ∈ taken := by
        simpa using hfind
      have hlt := lt_length_of_numbered_mem hname hall
      omega
    | some i =>
      obtain ⟨hfree, -, hbefore⟩ := List.find?_range_eq_some.1 hfind
      have hfree : numbered name (i + 2) ∉ taken := by simpa using hfree
      have hbefore : ∀ j < i, numbered name (j + 2) ∈ taken := by simpa using hbefore
      have hlt := lt_length_of_numbered_mem hname hbefore
      refine .inr ⟨hname, i + 2, by omega, by omega, rfl, hfree, fun k hk hki => ?_⟩
      obtain ⟨j, rfl⟩ := Nat.exists_eq_add_of_le' hk
      exact hbefore j (by omega)
  · rw [if_neg (by simpa using hname)]
    exact .inl ⟨hname, rfl⟩

/-! ## What the names are made of -/

/-- A name that may stand between the separators of a path: it is not empty, and its characters
are those of directory names. -/
structure IsSegment (s : String) : Prop where
  ne_empty : s ≠ ""
  chars : ∀ c ∈ s.toList, isDirectoryChar c

/-- A text in front of a segment, of the same characters, makes a segment. -/
theorem IsSegment.prepend {s t : String} (ht : IsSegment t)
    (hs : ∀ c ∈ s.toList, isDirectoryChar c) : IsSegment (s ++ t) where
  ne_empty h := ht.ne_empty (String.append_eq_empty_iff.1 h).2
  chars c hc := by
    rw [String.toList_append, List.mem_append] at hc
    exact hc.elim (hs c) (ht.chars c)

/-- Directory characters make a segment of a path, if there is at least one. -/
theorem isSegment_ofList {c : Char} {rest : List Char} (h : ∀ d ∈ c :: rest, isDirectoryChar d) :
    IsSegment (String.ofList (c :: rest)) where
  ne_empty he := List.cons_ne_nil c rest (String.ofList_inj.1 he)
  chars d hd := h d (by rwa [String.toList_ofList] at hd)

/-- **Any name is made a segment.** -/
theorem isSegment_directoryName (name : String) : IsSegment (directoryName name) := by
  have hkept : ∀ c ∈ (Text.lowercase name).toList.filter isDirectoryChar, isDirectoryChar c :=
    fun c hc => (List.mem_filter.1 hc).2
  unfold directoryName
  split
  · exact ⟨by decide, by simp [isDirectoryChar, isAsciiLower, isAsciiDigit]⟩
  · next c rest h =>
    rw [h] at hkept
    split
    · have hprefix : ∀ c ∈ "page-".toList, isDirectoryChar c := by
        simp [isDirectoryChar, isAsciiLower, isAsciiDigit]
      exact (isSegment_ofList hkept).prepend hprefix
    · exact isSegment_ofList hkept

/-- A digit may stand in a directory name. -/
theorem isDirectoryChar_of_isDigit {c : Char} (h : c.isDigit) : isDirectoryChar c := by
  rw [Naming.isDirectoryChar_iff, Naming.isAsciiDigit_eq_isDigit]
  exact .inr (.inl h)

/-- A number is a segment. -/
theorem isSegment_toString (n : Nat) : IsSegment (toString n) where
  ne_empty h := Nat.toDigits_ne_nil (String.ofList_inj.1 (Nat.toString_eq_ofList_toDigits ▸ h))
  chars c hc := by
    rw [Nat.toString_eq_ofList_toDigits, String.toList_ofList] at hc
    exact isDirectoryChar_of_isDigit (Nat.isDigit_of_mem_toDigits (by decide) (by decide) hc)

/-- A segment with a number is a segment. -/
theorem IsSegment.numbered {s : String} (h : IsSegment s) (n : Nat) :
    IsSegment (numbered s n) := by
  refine (isSegment_toString n).prepend fun c hc => ?_
  rw [String.toList_append, List.mem_append] at hc
  rcases hc with hc | hc
  · exact h.chars c hc
  · obtain rfl := List.mem_singleton.1 hc
    decide

/-- A directory that is assigned for a segment is a segment. -/
theorem Assigned.isSegment (h : Assigned taken name dir) (hname : IsSegment name) :
    IsSegment dir := by
  rcases h with ⟨-, rfl⟩ | ⟨-, n, -, -, rfl, -⟩
  · exact hname
  · exact hname.numbered n

/-! ## One page after the other -/

/-- **Each page gets its name as those before it leave it.** -/
theorem assigned_placePages {pages : List Page} {before after : List (String × Page)}
    {e : String × Page} (h : placePages taken pages = before ++ e :: after) :
    Assigned (taken ++ before.map Prod.fst) (directoryName e.2.name) e.1 := by
  induction pages generalizing taken before with
  | nil => cases before <;> cases h
  | cons page pages ih =>
    rw [placePages] at h
    rcases before with _ | ⟨b, before⟩
    · obtain ⟨rfl, -⟩ := List.cons.inj h
      rw [List.map_nil, List.append_nil]
      exact assigned_freeName taken _
    · obtain ⟨rfl, htail⟩ := List.cons.inj h
      have hrest := ih htail
      rwa [List.append_assoc, List.singleton_append] at hrest

/-- **No two pages share a directory**, nor does one take a directory that was taken before. -/
theorem nodup_placePages {pages : List Page} (h : taken.Nodup) :
    (taken ++ (placePages taken pages).map Prod.fst).Nodup := by
  induction pages generalizing taken with
  | nil => simpa [placePages] using h
  | cons page pages ih =>
    have hfree := (assigned_freeName taken (directoryName page.name)).not_mem
    have hmore : (taken ++ [freeName taken (directoryName page.name)]).Nodup :=
      List.nodup_append_comm.1 (List.nodup_cons.2 ⟨hfree, h⟩)
    have hrest := ih hmore
    rwa [List.append_assoc, List.singleton_append] at hrest

/-- **Directories are segments**, whatever the pages are called. -/
theorem isSegment_of_mem_placePages {pages : List Page} {e : String × Page}
    (h : e ∈ placePages taken pages) : IsSegment e.1 := by
  obtain ⟨before, after, hsplit⟩ := List.append_of_mem h
  exact (assigned_placePages hsplit).isSegment (isSegment_directoryName _)

end Generation
end Pagewright
