/-
# Imports in any order of use

While a page is generated, the tags it uses are recorded one after the other, and in the end its
style sheet is imported, if there is one. The imports keep the order in which the modules were first
used; what is emitted does not (`ofImports_useAll`):

| emitted | order |
| --- | --- |
| statements with names | ascending modules, each with its names in ascending order |
| statements for an effect | as recorded, but there is one at most, the style sheet |
| packages | ascending names |

Sorted entries depend only on what is found under the keys, and a module is found with the names
that were used of it, however often and in whatever order. A style sheet whose path is also that of
a used module has names, and so its statement is among the first.
-/

import Pagewright.Proofs.Imports.Packages
import Pagewright.Proofs.Lowering.Collected

namespace Pagewright

open Source (Import)

/-- Sets with the same members are equal. -/
theorem Names.eq_of_mem_iff {s t : Names} (h : ∀ name, name ∈ s.items ↔ name ∈ t.items) :
    s = t := by
  have hperm : s.items.Perm t.items :=
    (List.perm_ext_iff_of_nodup (Imports.nodup_items s) (Imports.nodup_items t)).2 h
  have hitems : s.items = t.items :=
    List.Perm.eq_of_pairwise (fun _ _ _ _ hab hba => absurd hba (String.lt_asymm hab))
      s.ascending t.ascending hperm
  cases s
  cases t
  cases hitems
  rfl

/-- Statements in their order: one for a module, those with names in front, by strictly ascending
module and each with its names in strictly ascending order, and behind them those for an effect. -/
structure Source.Import.Arranged (statements : List Import) : Prop where
  nodup : (statements.map (·.module)).Nodup
  parts : ∃ named effects, statements = named ++ effects ∧
    (∀ s ∈ named, s.default = none ∧ s.named ≠ [] ∧ s.named.Pairwise (· < ·)) ∧
    (named.map (·.module)).Pairwise (· < ·) ∧
    ∀ s ∈ effects, s = .effect s.module

namespace Imports

variable {i i' : Imports} {module module' name : String} {sheet : Option String}

/-! ## Statements and what is found -/

/-- **What is found under a module** is settled by the modules and their names. -/
theorem names?_eq_of_iff (hkeys : ∀ module, module ∈ i.modules.keys ↔ module ∈ i'.modules.keys)
    (hnames : ∀ module name, i.hasName module name ↔ i'.hasName module name) (module : String) :
    i.names? module = i'.names? module := by
  have hfound : (i.names? module).isSome ↔ (i'.names? module).isSome := by
    rw [names?, names?, Dict.get?, Dict.get?, Dict.lookup_isSome_iff, Dict.lookup_isSome_iff]
    exact hkeys module
  cases hget : i.names? module with
  | none =>
    rw [hget] at hfound
    exact (Option.not_isSome_iff_eq_none.1 fun h => Bool.false_ne_true (hfound.2 h)).symm
  | some names =>
    rw [hget] at hfound
    obtain ⟨names', hget'⟩ := Option.isSome_iff_exists.1 (hfound.1 rfl)
    have hsame : names = names' := Names.eq_of_mem_iff fun name => by
      rw [← hasName_iff_of_names? hget, ← hasName_iff_of_names? hget', hnames]
    rw [hget', hsame]

/-- **Statements** depend on nothing but what is found under the modules, where one module at most
has no name. -/
theorem ofImports_eq_of_names? (h : ∀ module, i.names? module = i'.names? module)
    (hone : ∀ e ∈ i.entries, ∀ e' ∈ i.entries, e.2.isEmpty → e'.2.isEmpty → e = e') :
    Import.ofImports i = Import.ofImports i' := by
  have hsorted : i.sorted = i'.sorted := Dict.mergeSort_eq_of_get? h
  have hperm : i.entries.Perm i'.entries := Dict.entries_perm_of_get? h
  have heffects : (i.entries.filter fun e => e.2.isEmpty) =
      i'.entries.filter fun e => e.2.isEmpty := by
    have hany : ∀ l : List (String × Names), l.Pairwise fun _ _ => True := fun _ =>
      List.pairwise_of_forall fun _ _ => trivial
    refine List.Perm.eq_of_pairwise (fun e e' he he' _ _ => ?_) (hany _) (hany _) (hperm.filter _)
    obtain ⟨he, hempty⟩ := List.mem_filter.1 he
    obtain ⟨he', hempty'⟩ := List.mem_filter.1 he'
    exact hone e he e' (hperm.mem_iff.2 he') hempty hempty'
  rw [Import.ofImports, Import.ofImports, hsorted, heffects]

/-- **Whatever was collected,** its statements are in their order. -/
theorem arranged_ofImports (i : Imports) : Import.Arranged (Import.ofImports i) where
  nodup := i.nodup_modules_ofImports
  parts := by
    refine ⟨_, _, rfl, fun s hs => ?_, ?_, fun s hs => ?_⟩
    · obtain ⟨e, he, rfl⟩ := List.mem_map.1 hs
      have hnames : e.2.items ≠ [] := by
        simpa [Names.isEmpty] using (List.mem_filter.1 he).2
      exact ⟨rfl, hnames, e.2.ascending⟩
    · rw [List.map_map, List.pairwise_map]
      exact i.modules.pairwise_mergeSort.filter _
    · obtain ⟨e, -, rfl⟩ := List.mem_map.1 hs
      rfl

/-- **The names in the statements** are those that were collected. -/
theorem exists_named_iff :
    (∃ s ∈ Import.ofImports i, s.module = module ∧ name ∈ s.named) ↔ i.hasName module name := by
  constructor
  · rintro ⟨s, hs, rfl, hname⟩
    obtain ⟨names, hget, heq⟩ := exists_names_of_mem hs
    rw [heq] at hname
    exact (hasName_iff_of_names? hget).2 hname
  · intro h
    obtain ⟨_, hentry, -⟩ := hasName_iff.1 h
    have hkey : module ∈ i.modules.keys := List.mem_map_of_mem hentry
    obtain ⟨s, hs, rfl⟩ := List.mem_map.1 (i.modules_ofImports_perm.mem_iff.2 hkey)
    obtain ⟨names, hget, heq⟩ := exists_names_of_mem hs
    refine ⟨s, hs, rfl, ?_⟩
    rw [heq]
    exact (hasName_iff_of_names? hget).1 h

/-! ## A style sheet -/

/-- The imports with a style sheet, if there is one. -/
def withSheet (i : Imports) (sheet : Option String) : Imports := sheet.elim i i.addModule

/-- A style sheet adds no name. -/
theorem hasName_withSheet :
    (i.withSheet sheet).hasName module name ↔ i.hasName module name := by
  cases sheet with
  | none => exact Iff.rfl
  | some path => rw [withSheet, Option.elim_some, hasName_addModule]

/-- A style sheet adds its own path to the modules. -/
theorem mem_keys_withSheet :
    module ∈ (i.withSheet sheet).modules.keys ↔ sheet = some module ∨ module ∈ i.modules.keys := by
  cases sheet with
  | none => exact (or_iff_right (Option.some_ne_none module).symm).symm
  | some path =>
    rw [withSheet, Option.elim_some, addModule, Dict.alter, Dict.mem_keys_insert, Option.some_inj,
      eq_comm]

/-- A use adds its module. -/
theorem mem_keys_add {added : String} :
    module ∈ (i.add added name).modules.keys ↔ module = added ∨ module ∈ i.modules.keys :=
  Dict.mem_keys_insert

end Imports

/-! ## Uses one after the other -/

namespace Context

variable {c : Context} {uses uses' : List (String × String)} {module tag : String}

/-- Records the uses of tags of modules, one after the other. -/
def useAll (c : Context) (uses : List (String × String)) : Context :=
  uses.foldl (fun c use => c.useTag use.1 use.2) c

theorem useAll_cons (c : Context) (use : String × String) (uses : List (String × String)) :
    c.useAll (use :: uses) = (c.useTag use.1 use.2).useAll uses := rfl

/-- **The names after several uses** are those before and those that are used. -/
theorem hasName_useAll :
    (c.useAll uses).imports.hasName module tag ↔
      (module, tag) ∈ uses ∨ c.imports.hasName module tag := by
  induction uses generalizing c with
  | nil => exact (or_iff_right List.not_mem_nil).symm
  | cons use uses ih =>
    rw [useAll_cons, ih, useTag, Imports.hasName_add, List.mem_cons, Prod.ext_iff, or_left_comm,
      or_assoc]

/-- **The modules after several uses** are those before and those that are used. -/
theorem mem_keys_useAll :
    module ∈ (c.useAll uses).imports.modules.keys ↔
      (∃ tag, (module, tag) ∈ uses) ∨ module ∈ c.imports.modules.keys := by
  induction uses generalizing c with
  | nil => simp [useAll]
  | cons use uses ih =>
    obtain ⟨used, tag⟩ := use
    rw [useAll_cons, ih, useTag, Imports.mem_keys_add]
    simp only [List.mem_cons, Prod.mk.injEq, exists_or, exists_and_left, exists_eq, and_true]
    rw [or_left_comm, or_assoc]

/-- **The packages after several uses** are those before and those of the modules that are used. -/
theorem contains_useAll {package : String} :
    (c.useAll uses).dependencies.contains package ↔
      (∃ use ∈ uses, packageName? use.1 = some package) ∨ c.dependencies.contains package := by
  induction uses generalizing c with
  | nil => simp [useAll]
  | cons use uses ih =>
    rw [useAll_cons, ih, useTag, Dependencies.contains_addPath, List.exists_mem_cons_iff,
      or_left_comm, or_assoc]

/-- Uses ask for no version. -/
theorem isLoose_useAll (h : c.dependencies.IsLoose) : (c.useAll uses).dependencies.IsLoose := by
  induction uses generalizing c with
  | nil => exact h
  | cons use uses ih => exact ih (h.addPath use.1)

/-- **Packages of the same uses** are the same by name, in whatever order they are kept. -/
theorem sorted_useAll {d d' : Dependencies} (h : ∀ use, use ∈ uses ↔ use ∈ uses')
    (hd : d.packages.entries.Perm (empty.useAll uses).dependencies.packages.entries)
    (hd' : d'.packages.entries.Perm (empty.useAll uses').dependencies.packages.entries) :
    d.sorted = d'.sorted := by
  have hloose (uses : List (String × String)) : (empty.useAll uses).dependencies.IsLoose :=
    isLoose_useAll Dependencies.isLoose_empty
  refine Dependencies.sorted_eq_of_get? fun name => ?_
  have hcontains : (empty.useAll uses).dependencies.contains name =
      (empty.useAll uses').dependencies.contains name := by
    rw [Bool.eq_iff_iff, contains_useAll, contains_useAll]
    simp only [h]
  calc d.get? name
      = (empty.useAll uses).dependencies.get? name := Dict.lookup_eq_of_perm hd d.packages.nodup _
    _ = (empty.useAll uses').dependencies.get? name := by
      rw [(hloose uses).get?_eq, (hloose uses').get?_eq, hcontains]
    _ = d'.get? name := (Dict.lookup_eq_of_perm hd' d'.packages.nodup _).symm

/-! ## What is emitted -/

section Emitted

variable {sheet : Option String}

/-- What is emitted names what is used. -/
theorem hasName_emitted :
    ((empty.useAll uses).imports.withSheet sheet).hasName module tag ↔ (module, tag) ∈ uses := by
  rw [Imports.hasName_withSheet, hasName_useAll]
  exact or_iff_left Bool.false_ne_true

/-- What is emitted has the modules that are used and the style sheet. -/
theorem mem_keys_emitted :
    module ∈ ((empty.useAll uses).imports.withSheet sheet).modules.keys ↔
      sheet = some module ∨ ∃ tag, (module, tag) ∈ uses := by
  rw [Imports.mem_keys_withSheet, mem_keys_useAll]
  exact or_congr_right (or_iff_left List.not_mem_nil)

/-- A module without a name is the style sheet. -/
theorem eq_sheet_of_isEmpty {e : String × Names}
    (he : e ∈ ((empty.useAll uses).imports.withSheet sheet).entries) (hempty : e.2.isEmpty) :
    sheet = some e.1 := by
  rcases mem_keys_emitted.1 (List.mem_map_of_mem he) with hsheet | ⟨tag, huse⟩
  · exact hsheet
  · have hname := (Imports.hasName_iff_of_names? (Dict.get?_eq_some_iff.2 he)).1
      (hasName_emitted.2 huse)
    rw [List.isEmpty_iff.1 hempty] at hname
    cases hname

/-- One module at most has no name. -/
theorem eq_of_isEmpty {e e' : String × Names}
    (he : e ∈ ((empty.useAll uses).imports.withSheet sheet).entries)
    (he' : e' ∈ ((empty.useAll uses).imports.withSheet sheet).entries) (hempty : e.2.isEmpty)
    (hempty' : e'.2.isEmpty) : e = e' := by
  have hmodule : e.1 = e'.1 := Option.some.inj
    ((eq_sheet_of_isEmpty he hempty).symm.trans (eq_sheet_of_isEmpty he' hempty'))
  have hget := (Dict.get?_eq_some_iff.2 he).symm.trans (hmodule ▸ Dict.get?_eq_some_iff.2 he')
  exact Prod.ext hmodule (Option.some.inj hget)

end Emitted

/-- The statements for uses one after the other, and a style sheet, if there is one. -/
def statements (uses : List (String × String)) (sheet : Option String) : List Import :=
  Import.ofImports ((empty.useAll uses).imports.withSheet sheet)

/-- **The order of use does not count.** Of two lists of uses with the same members, in any order
and with any repetitions, both followed by the same style sheet or both by none, the statements are
the same, and so are the packages by name, in whatever order they are kept. The statements are in
their order, they import exactly the tags that are used, each of its module, and for its effect
exactly the style sheet, unless a tag of its path is used; the packages are those of the modules. -/
theorem ofImports_useAll (h : ∀ use, use ∈ uses ↔ use ∈ uses') (sheet : Option String) :
    statements uses sheet = statements uses' sheet ∧
      (∀ d d' : Dependencies,
        d.packages.entries.Perm (empty.useAll uses).dependencies.packages.entries →
        d'.packages.entries.Perm (empty.useAll uses').dependencies.packages.entries →
        d.sorted = d'.sorted) ∧
      Import.Arranged (statements uses sheet) ∧
      (∀ module tag, (∃ s ∈ statements uses sheet, s.module = module ∧ tag ∈ s.named) ↔
        (module, tag) ∈ uses) ∧
      (∀ module, Import.effect module ∈ statements uses sheet ↔
        sheet = some module ∧ ∀ tag, (module, tag) ∉ uses) ∧
      ∀ package, (empty.useAll uses).dependencies.contains package ↔
        ∃ use ∈ uses, packageName? use.1 = some package := by
  have hfound : ∀ module, ((empty.useAll uses).imports.withSheet sheet).names? module =
      ((empty.useAll uses').imports.withSheet sheet).names? module := by
    refine Imports.names?_eq_of_iff (fun module => ?_) fun module tag => ?_
    · simp only [mem_keys_emitted, h]
    · rw [hasName_emitted, hasName_emitted, h]
  refine ⟨Imports.ofImports_eq_of_names? hfound fun e he e' he' => eq_of_isEmpty he he',
    fun d d' hd hd' => sorted_useAll h hd hd', Imports.arranged_ofImports _, fun module tag => ?_,
    fun module => ?_, fun package => ?_⟩
  · rw [statements, Imports.exists_named_iff, hasName_emitted]
  · rw [statements, Imports.effect_mem_ofImports_iff, mem_keys_emitted]
    simp only [hasName_emitted]
    constructor
    · rintro ⟨hsheet | ⟨tag, huse⟩, hnone⟩
      · exact ⟨hsheet, hnone⟩
      · exact absurd huse (hnone tag)
    · rintro ⟨hsheet, hnone⟩
      exact ⟨.inl hsheet, hnone⟩
  · rw [contains_useAll]
    exact or_iff_left Bool.false_ne_true

/-- Uses of tags of two packages, and of one of the style sheet's path. -/
def cardUses : List (String × String) :=
  [("@acme/ui/card", "Card"), ("@tarojs/components", "View"), ("./index.scss", "Sheet"),
    ("@tarojs/components", "Text"), ("@acme/ui/badge", "Badge")]

/-- The hypothesis of `ofImports_useAll` is satisfiable, by uses in the opposite order and repeated,
with a style sheet under a path of which a tag is used. -/
theorem cardUses_anyOrder :
    (∀ use, use ∈ cardUses ↔ use ∈ cardUses.reverse ++ cardUses) ∧
      statements cardUses (some "./index.scss") =
        statements (cardUses.reverse ++ cardUses) (some "./index.scss") ∧
      statements cardUses (some "./index.scss") =
        [.names "./index.scss" ["Sheet"], .names "@acme/ui/badge" ["Badge"],
          .names "@acme/ui/card" ["Card"], .names "@tarojs/components" ["Text", "View"]] ∧
      (empty.useAll cardUses).dependencies.sorted =
        (empty.useAll (cardUses.reverse ++ cardUses)).dependencies.sorted ∧
      (empty.useAll cardUses).dependencies.names = ["@acme/ui", "@tarojs/components"] := by
  have hsame : ∀ use, use ∈ cardUses ↔ use ∈ cardUses.reverse ++ cardUses := fun use => by
    rw [List.mem_append, List.mem_reverse, or_self]
  have hmodules : ((empty.useAll cardUses).imports.withSheet (some "./index.scss")).entries.Perm
      [("./index.scss", ⟨["Sheet"], by decide⟩), ("@acme/ui/badge", ⟨["Badge"], by decide⟩),
        ("@acme/ui/card", ⟨["Card"], by decide⟩),
        ("@tarojs/components", ⟨["Text", "View"], by decide⟩)] := by
    decide
  have hpackages : (empty.useAll cardUses).dependencies.packages.entries.Perm
      [("@acme/ui", .any), ("@tarojs/components", .any)] := by
    decide
  obtain ⟨hstatements, hsorted, -⟩ := ofImports_useAll hsame (some "./index.scss")
  refine ⟨hsame, hstatements, ?_, hsorted _ _ .rfl .rfl, ?_⟩
  · have hascending := Dict.mergeSort_eq_of_perm hmodules (by decide)
    rw [statements, Import.ofImports, Imports.sorted, Imports.entries, hascending]
    decide
  · have hascending := Dict.mergeSort_eq_of_perm hpackages (by decide)
    rw [Dependencies.names, Dependencies.sorted, hascending]
    rfl

end Context
end Pagewright
