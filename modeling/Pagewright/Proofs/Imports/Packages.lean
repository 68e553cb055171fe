/-
# Collecting packages in any order

The packages that pages need are merged page by page, and a package that is there already keeps
its version. A collection has no order that counts: a merge may take the packages of the other
collection in any order and may leave the result in any order (`MergesTo`), and so on through
the pages (`GathersTo`). What is found in the end is the same however it goes (`MergesTo.get?`),
and so is the list of packages by name (`sorted_eq_of_get?`).

Which version a package gets could still depend on the order of the pages, the first one with
it decides. It does not where every page does with any version of what it needs (`IsLoose`):
then the packages are those of the pages, whatever their order (`GathersTo.sorted_eq`).
-/

import Pagewright.Generation.Dependencies
import Pagewright.Generation.Imports
import Mathlib.Data.List.Nodup

namespace Pagewright

namespace Dict

variable {κ : Type u} {α : Type v} [DecidableEq κ]

/-- Sets the value under a key that is not present. -/
def insertNew (d : Dict κ α) (e : κ × α) : Dict κ α :=
  if d.contains e.1 then d else d.insert e.1 e.2

/-- A new entry is there unless its key has a value. -/
theorem get?_insertNew (d : Dict κ α) (e : κ × α) (k : κ) :
    (d.insertNew e).get? k = (d.get? k).or ([e].lookup k) := by
  unfold insertNew
  by_cases hk : k = e.1
  · subst hk
    rw [List.lookup_cons_self]
    split
    · next h =>
      obtain ⟨v, hv⟩ := Option.isSome_iff_exists.1 h
      rw [hv, Option.some_or]
    · next h =>
      rw [get?_insert_self, Option.not_isSome_iff_eq_none.1 h, Option.none_or]
  · have hlookup : [e].lookup k = none := by simpa [List.lookup_cons] using hk
    rw [hlookup, Option.or_none]
    split
    · rfl
    · rw [get?_insert, if_neg hk]

/-- **What is there stays,** and of the entries with a new key the first counts. -/
theorem get?_foldl_insertNew (d : Dict κ α) (l : List (κ × α)) (k : κ) :
    (l.foldl insertNew d).get? k = (d.get? k).or (l.lookup k) := by
  induction l generalizing d with
  | nil => exact (Option.or_none).symm
  | cons e l ih =>
    rw [List.foldl_cons, ih, get?_insertNew, Option.or_assoc, ← List.lookup_append]
    rfl

/-- A map of the values maps what is looked up. -/
theorem lookup_map_snd {β : Type w} (f : α → β) (l : List (κ × α)) (k : κ) :
    (l.map fun e => (e.1, f e.2)).lookup k = (l.lookup k).map f := by
  induction l with
  | nil => rfl
  | cons e l ih =>
    rw [List.map_cons, List.lookup_cons, List.lookup_cons, ih]
    cases k == e.1 <;> rfl

/-- Where keys are distinct, a lookup does not depend on the order. -/
theorem lookup_eq_of_perm {l l' : List (κ × α)} (h : l.Perm l') (hl : (l.map Prod.fst).Nodup)
    (k : κ) : l.lookup k = l'.lookup k := by
  ext v
  rw [lookup_eq_some_iff_mem hl, lookup_eq_some_iff_mem ((h.map Prod.fst).nodup_iff.1 hl),
    h.mem_iff]

/-- Dictionaries in which the same is found have the same entries, up to order. -/
theorem entries_perm_of_get? {d d' : Dict κ α} (h : ∀ k, d.get? k = d'.get? k) :
    d.entries.Perm d'.entries := by
  rw [List.perm_ext_iff_of_nodup (.of_map Prod.fst d.nodup) (.of_map Prod.fst d'.nodup)]
  intro e
  rw [← get?_eq_some_iff, ← get?_eq_some_iff, h]

/-- Entries sorted by key stand in strictly ascending order. -/
theorem pairwise_mergeSort (d : Dict String α) :
    (d.entries.mergeSort fun a b => decide (a.1 ≤ b.1)).Pairwise fun a b => a.1 < b.1 := by
  have hascending : (d.entries.mergeSort fun a b => decide (a.1 ≤ b.1)).Pairwise
      fun a b => a.1 ≤ b.1 := by
    refine (List.pairwise_mergeSort (fun a b c hab hbc => ?_) (fun a b => ?_) _).imp ?_
    · exact decide_eq_true (String.le_trans (of_decide_eq_true hab) (of_decide_eq_true hbc))
    · rw [Bool.or_eq_true, decide_eq_true_iff, decide_eq_true_iff]
      exact String.le_total a.1 b.1
    · exact fun hab => of_decide_eq_true hab
  have hdistinct : (d.entries.mergeSort fun a b => decide (a.1 ≤ b.1)).Pairwise
      fun a b => a.1 ≠ b.1 :=
    List.pairwise_map.1 (((List.mergeSort_perm ..).map Prod.fst).nodup_iff.2 d.nodup)
  exact hascending.imp₂
    (fun _ _ hle hne => Names.lt_of_ne_of_not_lt hne.symm (String.not_lt.2 hle)) hdistinct

/-- **Entries sorted by key** are their only arrangement in ascending order. -/
theorem mergeSort_eq_of_perm {d : Dict String α} {l : List (String × α)}
    (hperm : d.entries.Perm l) (hascending : l.Pairwise fun a b => a.1 < b.1) :
    (d.entries.mergeSort fun a b => decide (a.1 ≤ b.1)) = l := by
  refine List.Perm.eq_of_pairwise (fun a b _ _ hab hba => ?_) d.pairwise_mergeSort hascending
    ((List.mergeSort_perm ..).trans hperm)
  exact absurd hba (String.lt_asymm hab)

/-- So they depend on nothing but what is found under the keys. -/
theorem mergeSort_eq_of_get? {d d' : Dict String α} (h : ∀ k, d.get? k = d'.get? k) :
    (d.entries.mergeSort fun a b => decide (a.1 ≤ b.1)) =
      d'.entries.mergeSort fun a b => decide (a.1 ≤ b.1) :=
  mergeSort_eq_of_perm ((entries_perm_of_get? h).trans (List.mergeSort_perm ..).symm)
    d'.pairwise_mergeSort

end Dict

namespace Dependencies

variable {d d' other : Dependencies} {ds ds' : List Dependencies} {name : String}

/-- Adds packages one after the other. -/
def addAll (d : Dependencies) (l : List (String × Dependency)) : Dependencies :=
  l.foldl (fun d e => d.add e.1 e.2) d

/-- Packages are added one after the other, those that are new. -/
theorem packages_addAll (l : List (String × Dependency)) :
    (d.addAll l).packages = l.foldl Dict.insertNew d.packages := by
  induction l generalizing d with
  | nil => rfl
  | cons e l ih =>
    have hadd : (d.add e.1 e.2).packages = d.packages.insertNew e := by
      unfold add Dict.insertNew
      split <;> rfl
    rw [List.foldl_cons, ← hadd, ← ih]
    rfl

/-- **The packages after several are added** keep their versions, and the first of a name counts. -/
theorem get?_addAll (l : List (String × Dependency)) (name : String) :
    (d.addAll l).get? name = (d.get? name).or (l.lookup name) := by
  rw [get?, packages_addAll, Dict.get?_foldl_insertNew]
  rfl

theorem contains_iff_get? : d.contains name ↔ ∃ dependency, d.get? name = some dependency :=
  Option.isSome_iff_exists

/-! ## Merging -/

/-- A collection merged into another one, when its packages are taken in any order and the
result is kept in any order. -/
def MergesTo (d other d' : Dependencies) : Prop :=
  ∃ order, order.Perm other.packages.entries ∧
    d'.packages.entries.Perm (d.addAll order).packages.entries

/-- A merge is one of the ways to merge. -/
theorem mergesTo_merge (d other : Dependencies) : MergesTo d other (d.merge other) :=
  ⟨other.packages.entries, .rfl, .rfl⟩

/-- **A merge** has what was there, and of the other collection what was not. -/
theorem MergesTo.get? (h : MergesTo d other d') (name : String) :
    d'.get? name = (d.get? name).or (other.get? name) := by
  obtain ⟨order, horder, hresult⟩ := h
  have hother : order.lookup name = other.get? name :=
    Dict.lookup_eq_of_perm horder ((horder.map Prod.fst).nodup_iff.2 other.packages.nodup) name
  have hstored : d'.get? name = (d.addAll order).get? name :=
    Dict.lookup_eq_of_perm hresult d'.packages.nodup name
  rw [hstored, get?_addAll, hother]

/-- **Merged packages** are those of either side. -/
theorem MergesTo.contains_iff (h : MergesTo d other d') :
    d'.contains name ↔ d.contains name ∨ other.contains name := by
  change (d'.get? name).isSome ↔ (d.get? name).isSome ∨ (other.get? name).isSome
  rw [h.get?, Option.isSome_or, Bool.or_eq_true]

/-- Collections merged one after the other, starting with none. -/
inductive GathersTo : List Dependencies → Dependencies → Prop
  | nil : GathersTo [] ∅
  | concat {ds : List Dependencies} {d other d' : Dependencies} (h : GathersTo ds d)
      (hmerge : MergesTo d other d') : GathersTo (ds ++ [other]) d'

/-- **What is gathered** is what one of the collections has. -/
theorem GathersTo.contains_iff (h : GathersTo ds d) :
    d.contains name ↔ ∃ e ∈ ds, e.contains name := by
  induction h with
  | nil => exact iff_of_false Bool.false_ne_true (by simp)
  | concat _ hmerge ih => simp [hmerge.contains_iff, ih, or_and_right, exists_or]

/-! ## Any version -/

/-- Any version of the packages will do. -/
def IsLoose (d : Dependencies) : Prop :=
  ∀ name dependency, d.get? name = some dependency → dependency = .any

theorem isLoose_empty : IsLoose ∅ := fun _ _ h => by cases h

/-- Where no version is asked for, packages are told by their names. -/
theorem IsLoose.get?_eq (h : d.IsLoose) (name : String) :
    d.get? name = if d.contains name then some .any else none := by
  cases hget : d.get? name with
  | none =>
    have hnot : ¬ d.contains name := Option.not_isSome_iff_eq_none.2 hget
    rw [if_neg hnot]
  | some dependency =>
    rw [if_pos (contains_iff_get?.2 ⟨dependency, hget⟩), h name dependency hget]

/-- A merge asks for no version if neither side does. -/
theorem MergesTo.isLoose (h : MergesTo d other d') (hd : d.IsLoose) (hother : other.IsLoose) :
    d'.IsLoose := by
  intro name dependency hget
  rw [h.get?, Option.or_eq_some_iff] at hget
  rcases hget with hget | ⟨-, hget⟩
  · exact hd name dependency hget
  · exact hother name dependency hget

/-- Gathered packages ask for no version if none of the parts does. -/
theorem GathersTo.isLoose (h : GathersTo ds d) (hds : ∀ e ∈ ds, e.IsLoose) : d.IsLoose := by
  induction h with
  | nil => exact isLoose_empty
  | concat _ hmerge ih =>
    rw [List.forall_mem_append, List.forall_mem_singleton] at hds
    exact hmerge.isLoose (ih hds.1) hds.2

/-- Adding the package of a path asks for no version. -/
theorem IsLoose.addPath (h : d.IsLoose) (path : String) : (d.addPath path).IsLoose := by
  unfold Dependencies.addPath
  cases packageName? path with
  | none => exact h
  | some added =>
    have hadd : d.add added .any = d.addAll [(added, .any)] := rfl
    have hone : ([(added, Dependency.any)].map Prod.fst).Nodup := List.nodup_singleton added
    intro name dependency hget
    dsimp only at hget
    rw [hadd, get?_addAll, Option.or_eq_some_iff, Dict.lookup_eq_some_iff_mem hone] at hget
    rcases hget with hget | ⟨-, hentry⟩
    · exact h name dependency hget
    · exact (Prod.mk.inj (List.mem_singleton.1 hentry)).2

/-! ## Packages by name -/

/-- The packages by name are all the packages. -/
theorem mem_sorted_iff {e : String × Dependency} : e ∈ d.sorted ↔ d.get? e.1 = some e.2 := by
  rw [sorted, (List.mergeSort_perm ..).mem_iff, get?, Dict.get?_eq_some_iff]

/-- A package is looked up by name among the sorted ones. -/
theorem lookup_sorted (name : String) : d.sorted.lookup name = d.get? name :=
  Dict.lookup_eq_of_perm (List.mergeSort_perm ..)
    (((List.mergeSort_perm ..).map Prod.fst).nodup_iff.2 d.packages.nodup) name

/-- **The list by name** depends on nothing but what is found under the names. -/
theorem sorted_eq_of_get? (h : ∀ name, d.get? name = d'.get? name) : d.sorted = d'.sorted :=
  Dict.mergeSort_eq_of_get? h

/-- **No order counts:** collections that ask for no version are gathered to the same packages by
name, however the collections and the packages in them are ordered. -/
theorem GathersTo.sorted_eq (h : GathersTo ds d) (h' : GathersTo ds' d')
    (hnames : ∀ name, (∃ e ∈ ds, e.contains name) ↔ ∃ e ∈ ds', e.contains name)
    (hds : ∀ e ∈ ds, e.IsLoose) (hds' : ∀ e ∈ ds', e.IsLoose) : d.sorted = d'.sorted := by
  refine sorted_eq_of_get? fun name => ?_
  have hcontains : d.contains name = d'.contains name := by
    rw [Bool.eq_iff_iff, h.contains_iff, h'.contains_iff, hnames]
  rw [(h.isLoose hds).get?_eq, (h'.isLoose hds').get?_eq, hcontains]

end Dependencies
end Pagewright
