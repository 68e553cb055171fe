/-
# Files after any registrations

A file set is asked to register files and to forget them all, in any order and any number of times.
It holds what was registered since it last forgot (`run_eq_registerAll`): every path once, where it
was registered first, with the file that was registered under it last (`standing`). A later file may
have another category, so a path may come out elsewhere than it did before; its place among the
paths of its category is still that of its first registration (`entries_run`).

No path is there twice, whatever was registered, so nothing is lost where the files become a
dictionary of contents.
-/

import Pagewright.Proofs.Project.Files
import Mathlib.Data.List.DropRight
import Mathlib.Data.Finset.Card

namespace Pagewright

namespace Dict

variable {κ : Type u} {α : Type v} [DecidableEq κ]

/-- The entries are what is found under the keys. -/
theorem entries_eq_filterMap_keys (d : Dict κ α) :
    d.entries = d.keys.filterMap fun k => (d.get? k).map fun v => (k, v) := by
  have hfound : ∀ e ∈ d.entries, some e = (d.get? e.1).map fun v => (e.1, v) := by
    intro e he
    rw [get?_eq_some_iff.2 he, Option.map_some]
  rw [keys, List.filterMap_map, Function.comp_def, ← List.filterMap_congr hfound,
    List.filterMap_some]

/-- **First occurrences** stand in the order in which they are found. -/
theorem pairwise_idxOf_eraseDups (l : List κ) :
    l.eraseDups.Pairwise fun a b => l.idxOf a < l.idxOf b := by
  induction l using List.reverseRecOn with
  | nil => exact .nil
  | append_singleton l a ih =>
    have hold : ∀ k ∈ l.eraseDups, (l ++ [a]).idxOf k = l.idxOf k := fun k hk =>
      List.idxOf_append_of_mem (List.mem_eraseDups.1 hk)
    have hkept : l.eraseDups.Pairwise fun b c => (l ++ [a]).idxOf b < (l ++ [a]).idxOf c :=
      ih.imp_of_mem fun hb hc hlt => by rwa [hold _ hb, hold _ hc]
    rw [eraseDups_concat]
    split
    · exact hkept
    · next hnew =>
      have hlast : (l ++ [a]).idxOf a = l.length := by
        rw [List.idxOf_append_of_notMem fun h => hnew (List.mem_eraseDups.2 h),
          List.idxOf_cons_self, Nat.add_zero]
      refine List.pairwise_append.2 ⟨hkept, List.pairwise_singleton _ _, fun b hb c hc => ?_⟩
      rw [List.mem_singleton.1 hc, hlast, hold b hb]
      exact List.idxOf_lt_length_of_mem (List.mem_eraseDups.1 hb)

end Dict

namespace Project
namespace FileSet

/-- What a file set may be asked to do. -/
inductive Operation where
  | register (path : String) (file : File)
  | clear

/-- The file that an operation registers, with its path. -/
def Operation.entry? : Operation → Option (String × File)
  | .register path file => some (path, file)
  | .clear => none

/-- A file set after an operation. -/
def perform (s : FileSet) : Operation → FileSet
  | .register path file => s.register path file
  | .clear => s.clear

/-- The file set that operations make, one after the other. -/
def run (ops : List Operation) : FileSet := ops.foldl perform ∅

/-- What was registered since the last clearing, in order. -/
def sinceClear (ops : List Operation) : List (String × File) :=
  (ops.rtakeWhile fun op => op.entry?.isSome).filterMap Operation.entry?

/-- What stands of registrations: every path once, where it was registered first, with the file
that was registered last. -/
def standing (registered : List (String × File)) : List (String × File) :=
  (registered.map Prod.fst).eraseDups.filterMap fun path =>
    (registered.reverse.lookup path).map fun file => (path, file)

/-- The paths of these registrations, in order. -/
def pathsSinceClear (ops : List Operation) : List String := (sinceClear ops).map Prod.fst

/-- The last operation is performed on what the others make. -/
theorem run_concat (ops : List Operation) (op : Operation) :
    run (ops ++ [op]) = (run ops).perform op :=
  List.foldl_concat ..

/-- A registration is added to those since the last clearing. -/
theorem sinceClear_concat_register (ops : List Operation) (path : String) (file : File) :
    sinceClear (ops ++ [.register path file]) = sinceClear ops ++ [(path, file)] := by
  rw [sinceClear, List.rtakeWhile_concat_pos _ _ _ rfl, List.filterMap_append]
  rfl

/-- Since a clearing nothing is registered. -/
theorem sinceClear_concat_clear (ops : List Operation) :
    sinceClear (ops ++ [.clear]) = [] := by
  rw [sinceClear, List.rtakeWhile_concat_neg _ _ _ Bool.false_ne_true]
  rfl

/-- **Whatever was asked of a file set,** it holds what was registered since it last forgot. -/
theorem run_eq_registerAll (ops : List Operation) :
    run ops = (∅ : FileSet).registerAll (sinceClear ops) := by
  -- along the operations, the last one taken off
  induction ops using List.reverseRecOn with
  | nil => rfl
  | append_singleton ops op ih =>
    rw [run_concat, ih]
    cases op with
    | register path file =>
      rw [sinceClear_concat_register, registerAll_append]
      rfl
    | clear =>
      rw [sinceClear_concat_clear]
      rfl

/-! ## What registrations leave -/

section Registered

variable (registered : List (String × File))

/-- Paths stand where they are registered first. -/
theorem keys_registerAll :
    ((∅ : FileSet).registerAll registered).files.keys = (registered.map Prod.fst).eraseDups :=
  Dict.keys_ofList registered

/-- A path has the file that is registered last. -/
theorem get?_registerAll (path : String) :
    ((∅ : FileSet).registerAll registered).get? path = registered.reverse.lookup path :=
  Dict.get?_ofList registered path

/-- **What registrations make** is what stands of them. -/
theorem entries_registerAll_eq_standing :
    ((∅ : FileSet).registerAll registered).files.entries = standing registered := by
  rw [Dict.entries_eq_filterMap_keys, keys_registerAll]
  exact List.filterMap_congr fun path _ => congrArg _ (get?_registerAll registered path)

/-- There are as many files as paths. -/
theorem size_registerAll :
    ((∅ : FileSet).registerAll registered).size = (registered.map Prod.fst).toFinset.card := by
  have hlength := congrArg List.length (keys_registerAll registered)
  have hnodup : (registered.map Prod.fst).eraseDups.Nodup :=
    keys_registerAll registered ▸ Dict.nodup_keys _
  have hsame : (registered.map Prod.fst).eraseDups.toFinset = (registered.map Prod.fst).toFinset :=
    List.toFinset.ext fun _ => List.mem_eraseDups
  rw [← hsame, List.toFinset_card_of_nodup hnodup, ← hlength, Dict.keys, List.length_map]
  rfl

/-- What stands is in the order of the first registrations. -/
theorem pairwise_idxOf_standing :
    (standing registered).Pairwise fun a b =>
      (registered.map Prod.fst).idxOf a.1 < (registered.map Prod.fst).idxOf b.1 := by
  have hkeys := Dict.pairwise_idxOf_eraseDups (registered.map Prod.fst)
  rwa [← keys_registerAll, Dict.keys, List.pairwise_map, entries_registerAll_eq_standing] at hkeys

end Registered

/-! ## What comes out -/

/-- The categories come out in their order. -/
theorem pairwise_rank_all : Category.all.Pairwise fun c d => c.rank < d.rank := by decide

/-- **One category after the other:** the files come out by category, and in a category they keep
their order. -/
theorem pairwise_entries {s : FileSet} {before : String × File → String × File → Prop}
    (h : s.files.entries.Pairwise before) :
    s.entries.Pairwise fun a b =>
      a.2.category.rank < b.2.category.rank ∨ a.2.category = b.2.category ∧ before a b := by
  have hcategory : ∀ {c : Category} {e : String × File},
      e ∈ s.files.entries.filter (fun e => e.2.category = c) → e.2.category = c := fun he =>
    of_decide_eq_true (List.mem_filter.1 he).2
  refine List.pairwise_flatMap.2 ⟨fun c _ => ?_, pairwise_rank_all.imp fun {c d} hcd => ?_⟩
  · exact (h.filter _).imp_of_mem fun ha hb hab =>
      .inr ⟨(hcategory ha).trans (hcategory hb).symm, hab⟩
  · intro a ha b hb
    exact .inl (by rwa [hcategory ha, hcategory hb])

/-- No path is lost on the way into a dictionary. -/
theorem entries_toDict (s : FileSet) : s.toDict.entries = s.contents :=
  Dict.entries_ofList_of_nodup s.nodup_paths

/-- **Files after any operations.** However often files are registered and forgotten, no path comes
out twice; under a path the file is found that was registered last since the last clearing, and
there are as many files as paths. What comes out is, up to order, what stands of these
registrations: the categories in their order and, within a category, the paths in the order of
their first registration. The dictionary of contents and the shown files have the same paths and
contents in the same order. -/
theorem entries_run (ops : List Operation) :
    ((run ops).entries.map Prod.fst).Nodup ∧
      (∀ path, (run ops).get? path = (sinceClear ops).reverse.lookup path) ∧
      (run ops).size = (pathsSinceClear ops).toFinset.card ∧
      (run ops).entries.Perm (standing (sinceClear ops)) ∧
      ((run ops).entries.Pairwise fun a b =>
        a.2.category.rank < b.2.category.rank ∨
          a.2.category = b.2.category ∧
            (pathsSinceClear ops).idxOf a.1 < (pathsSinceClear ops).idxOf b.1) ∧
      (run ops).toDict.entries = (run ops).entries.map (fun e => (e.1, e.2.content)) ∧
      (run ops).preview.map (fun e => (e.path, e.content)) = (run ops).toDict.entries ∧
      (run ops).preview.map ShownFile.category =
        (run ops).entries.map fun e => e.2.category := by
  have hstanding : (run ops).files.entries = standing (sinceClear ops) := by
    rw [run_eq_registerAll, entries_registerAll_eq_standing]
  have horder : (run ops).files.entries.Pairwise fun a b =>
      (pathsSinceClear ops).idxOf a.1 < (pathsSinceClear ops).idxOf b.1 :=
    hstanding ▸ pairwise_idxOf_standing (sinceClear ops)
  refine ⟨((run ops).entries_perm.map Prod.fst).nodup_iff.2 (run ops).files.nodup_keys,
    fun path => ?_, ?_, hstanding ▸ (run ops).entries_perm, pairwise_entries horder,
    (run ops).entries_toDict, ?_, ?_⟩
  · rw [run_eq_registerAll, get?_registerAll]
  · rw [run_eq_registerAll, size_registerAll, pathsSinceClear]
  · rw [entries_toDict, contents, preview, List.map_map]
    rfl
  · rw [preview, List.map_map]
    rfl

/-- A file that is registered again under another category comes out there, in front of the files
whose paths were registered later. -/
example :
    (run [.clear, .register "a.ts" ⟨"", .style, .always⟩, .register "b.ts" ⟨"", .page, .always⟩,
      .register "a.ts" ⟨"1", .page, .always⟩, .register "c.ts" ⟨"", .config, .always⟩]).contents =
      [("c.ts", ""), ("a.ts", "1"), ("b.ts", "")] := by
  decide

end FileSet
end Project
end Pagewright
