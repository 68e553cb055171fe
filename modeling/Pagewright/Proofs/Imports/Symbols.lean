/-
# The names that import statements bind

Collected imports are read through `hasName`: which name is used of which module.
Collecting adds exactly the name it is given (`hasName_add`), and a module without a
name adds none (`hasName_addModule`).

The statements for collected imports bind these names and no others
(`mem_symbols_iff`). Each module has one of them (`modules_ofImports_perm`), which imports
the names collected of it (`exists_names_of_mem`), none of them twice
(`nodup_bound_of_mem`), so a name is bound twice only if it is used of two modules
(`nodup_symbols_iff`). A module without a name is imported for its effect
(`effect_mem_ofImports_iff`).
-/

import Pagewright.Source.Import
import Mathlib.Data.List.Nodup
import Mathlib.Data.List.Pairwise

namespace Pagewright

/-- The names that a statement binds. -/
def Source.Import.bound (i : Source.Import) : List String := i.default.toList ++ i.named

namespace Imports

open Source (Import)

/-- The names that the statements for collected imports bind, in order. -/
def symbols (i : Imports) : List String := (Import.ofImports i).flatMap Import.bound

theorem contains_iff {s : Names} {name : String} : s.contains name ↔ name ∈ s.items :=
  List.contains_iff_mem

/-- A name is used of a module exactly if the entry of the module has it. -/
theorem hasName_iff {i : Imports} {module name : String} :
    i.hasName module name ↔ ∃ names, (module, names) ∈ i.entries ∧ name ∈ names.items := by
  unfold hasName names? entries
  simp only [Option.any_eq_true, contains_iff, Dict.get?_eq_some_iff]

/-- The names of a module are those found under it. -/
theorem hasName_iff_of_names? {i : Imports} {module name : String} {names : Names}
    (h : i.names? module = some names) : i.hasName module name ↔ name ∈ names.items := by
  rw [hasName, h, Option.any_some, contains_iff]

@[simp] theorem hasName_empty (module name : String) :
    (∅ : Imports).hasName module name = false := rfl

/-- **Collecting a name** of a module adds this name and leaves the others. -/
theorem hasName_add {i : Imports} {module name module' name' : String} :
    (i.add module name).hasName module' name' ↔
      module' = module ∧ name' = name ∨ i.hasName module' name' := by
  unfold hasName names? add Dict.alter
  rw [Dict.get?_insert]
  by_cases h : module' = module
  · subst h
    cases hg : i.modules.get? module' with
    | none =>
      simp [contains_iff, Names.mem_items_insert, EmptyCollection.emptyCollection, Names.empty]
    | some names => simp [contains_iff, Names.mem_items_insert]
  · simp [h]

/-- **Collecting a module** without a name adds no name. -/
theorem hasName_addModule (i : Imports) (module module' name : String) :
    (i.addModule module).hasName module' name = i.hasName module' name := by
  unfold hasName names? addModule Dict.alter
  rw [Dict.get?_insert]
  by_cases h : module' = module
  · subst h
    rw [if_pos rfl]
    cases i.modules.get? module' <;> rfl
  · simp [h]

theorem sorted_perm (i : Imports) : i.sorted.Perm i.entries := List.mergeSort_perm ..

/-- Leaving out what contributes nothing changes nothing. -/
theorem flatMap_filter_of_nil {α : Type u} {β : Type v} {f : α → List β} (test : α → Bool)
    (l : List α) (h : ∀ a ∈ l, test a = false → f a = []) :
    (l.filter test).flatMap f = l.flatMap f := by
  induction l with
  | nil => rfl
  | cons a l ih =>
    rw [List.forall_mem_cons] at h
    rw [List.flatMap_cons, ← ih h.2, List.filter_cons]
    cases ht : test a with
    | true => rfl
    | false => rw [h.1 ht]; rfl

/-- The statements bind, up to order, the collected names module by module. -/
theorem symbols_perm (i : Imports) : i.symbols.Perm (i.entries.flatMap fun e => e.2.items) := by
  have hnamed : ((i.sorted.filter fun e => !e.2.isEmpty).map fun e =>
      Import.names e.1 e.2.items).flatMap Import.bound = i.sorted.flatMap fun e => e.2.items := by
    rw [List.flatMap_map, ← flatMap_filter_of_nil (fun e => !e.2.isEmpty) i.sorted]
    · rfl
    · intro e _ he
      simpa [Names.isEmpty] using he
  have heffect : ((i.entries.filter fun e => e.2.isEmpty).map fun e =>
      Import.effect e.1).flatMap Import.bound = [] := by
    rw [List.flatMap_map]
    exact List.flatMap_eq_nil_iff.2 fun _ _ => rfl
  rw [symbols, Import.ofImports, List.flatMap_append, hnamed, heffect, List.append_nil]
  exact i.sorted_perm.flatMap_right _

/-- **What is bound** is what is used of some module. -/
theorem mem_symbols_iff {i : Imports} {name : String} :
    name ∈ i.symbols ↔ ∃ module, i.hasName module name := by
  rw [i.symbols_perm.mem_iff, List.mem_flatMap]
  simp only [hasName_iff]
  constructor
  · rintro ⟨⟨module, names⟩, he, hn⟩
    exact ⟨module, names, he, hn⟩
  · rintro ⟨module, names, he, hn⟩
    exact ⟨(module, names), he, hn⟩

/-- No name stands in a set twice. -/
theorem nodup_items (s : Names) : s.items.Nodup := by
  refine s.ascending.imp ?_
  rintro a _ h rfl
  exact String.lt_irrefl a h

/-- **No name is bound twice** exactly if each is used of one module only. -/
theorem nodup_symbols_iff {i : Imports} :
    i.symbols.Nodup ↔
      ∀ module module' name, i.hasName module name → i.hasName module' name →
        module = module' := by
  rw [i.symbols_perm.nodup_iff, List.nodup_flatMap]
  simp only [hasName_iff]
  constructor
  · rintro ⟨-, hd⟩ module module' name ⟨names, he, hn⟩ ⟨names', he', hn'⟩
    by_contra hne
    have hswap : Std.Symm (Function.onFun List.Disjoint fun e : String × Names => e.2.items) :=
      ⟨fun _ _ hdis _ ha hb => hdis hb ha⟩
    exact hd.forall he he' (fun h => hne (congrArg Prod.fst h)) hn hn'
  · intro h
    refine ⟨fun e _ => nodup_items e.2, ?_⟩
    refine (List.pairwise_map.1 i.modules.nodup).imp_of_mem fun {e e'} he he' hne => ?_
    intro name hn hn'
    exact hne (h e.1 e'.1 name ⟨e.2, he, hn⟩ ⟨e'.2, he', hn'⟩)

/-- **Every module has a statement,** exactly one. -/
theorem modules_ofImports_perm (i : Imports) :
    ((Import.ofImports i).map (·.module)).Perm i.modules.keys := by
  rw [Import.ofImports, List.map_append, List.map_map, List.map_map]
  have hs := (i.sorted_perm.filter fun e => !e.2.isEmpty).map Prod.fst
  have hall := (List.filter_append_perm (fun e => e.2.isEmpty) i.entries).map Prod.fst
  rw [List.map_append] at hall
  exact (hs.append_right _).trans (List.perm_append_comm.trans hall)

/-- **One statement for a module.** -/
theorem nodup_modules_ofImports (i : Imports) : ((Import.ofImports i).map (·.module)).Nodup :=
  i.modules_ofImports_perm.nodup_iff.2 i.modules.nodup

/-- **A statement imports** the names collected of its module. -/
theorem exists_names_of_mem {i : Imports} {s : Import} (h : s ∈ Import.ofImports i) :
    ∃ names, i.names? s.module = some names ∧ s = .names s.module names.items := by
  rw [Import.ofImports, List.mem_append] at h
  rcases h with h | h
  · obtain ⟨e, he, rfl⟩ := List.mem_map.1 h
    have hentry := i.sorted_perm.mem_iff.1 (List.mem_filter.1 he).1
    exact ⟨e.2, Dict.get?_eq_some_iff.2 hentry, rfl⟩
  · obtain ⟨e, he, rfl⟩ := List.mem_map.1 h
    obtain ⟨hentry, hempty⟩ := List.mem_filter.1 he
    refine ⟨e.2, Dict.get?_eq_some_iff.2 hentry, ?_⟩
    rw [List.isEmpty_iff.1 hempty]
    rfl

/-- **A name is bound by the statement for a module** exactly if it is used of the module. -/
theorem exists_mem_bound_iff {i : Imports} {module name : String} :
    (∃ s ∈ Import.ofImports i, s.module = module ∧ name ∈ s.bound) ↔ i.hasName module name := by
  constructor
  · rintro ⟨s, hs, rfl, hname⟩
    obtain ⟨names, hget, heq⟩ := exists_names_of_mem hs
    rw [heq] at hname
    exact (hasName_iff_of_names? hget).2 hname
  · intro hname
    obtain ⟨names, hentry, hitem⟩ := hasName_iff.1 hname
    have hmodule : module ∈ i.modules.keys := List.mem_map_of_mem hentry
    obtain ⟨s, hs, rfl⟩ := List.mem_map.1 (i.modules_ofImports_perm.mem_iff.2 hmodule)
    obtain ⟨names', hget, heq⟩ := exists_names_of_mem hs
    refine ⟨s, hs, rfl, ?_⟩
    rw [heq]
    exact (hasName_iff_of_names? hget).1 hname

/-- **A module is imported for its effect** exactly if it is collected without a name. -/
theorem effect_mem_ofImports_iff {i : Imports} {module : String} :
    Import.effect module ∈ Import.ofImports i ↔
      module ∈ i.modules.keys ∧ ∀ name, ¬ i.hasName module name := by
  constructor
  · intro h
    obtain ⟨names, hget, heq⟩ := exists_names_of_mem h
    have hitems : [] = names.items := congrArg Import.named heq
    refine ⟨i.modules_ofImports_perm.mem_iff.1 (List.mem_map_of_mem h), fun name hn => ?_⟩
    have hmem := (hasName_iff_of_names? hget).1 hn
    rw [← hitems] at hmem
    cases hmem
  · rintro ⟨hmodule, hnone⟩
    obtain ⟨s, hs, rfl⟩ := List.mem_map.1 (i.modules_ofImports_perm.mem_iff.2 hmodule)
    obtain ⟨names, hget, heq⟩ := exists_names_of_mem hs
    have hitems : names.items = [] :=
      List.eq_nil_iff_forall_not_mem.2 fun name hn => hnone name ((hasName_iff_of_names? hget).2 hn)
    rw [hitems] at heq
    exact heq ▸ hs

/-- **No name twice in a statement.** -/
theorem nodup_bound_of_mem {i : Imports} {s : Import} (h : s ∈ Import.ofImports i) :
    s.bound.Nodup := by
  obtain ⟨names, -, hs⟩ := exists_names_of_mem h
  rw [hs]
  exact nodup_items names

end Imports
end Pagewright
