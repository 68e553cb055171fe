/-
# The package manifest of a generated project

The package manifest of a project has two tables of packages:

| table | package | version |
| --- | --- | --- |
| `dependencies` | that every project for the platform needs | pinned |
| `dependencies` | any other that a page imports a module of | `*` |
| `devDependencies` | that every project for the platform needs for development | pinned |

What pages import is collected while they are lowered, with no version asked for
(`isLoose_pageOf`), so that it is the packages of the modules that their statements import
(`contains_pageOf_iff`), and a pinned version is not replaced (`get?_withCollected`). The tables are
read back from the text of the manifest (`exists_parse_packageManifest`). Because no version is
asked for, the manifest does not depend on the order of the pages, nor on the order in which
collected packages are merged and kept (`generateProject_packages`).
-/

import Pagewright.Proofs.Generation.Files
import Pagewright.Proofs.Generation.Statements
import Pagewright.Proofs.Imports.Packages
import Pagewright.Proofs.Json.Indented
import Pagewright.Proofs.Lowering.Collected

namespace Pagewright

open Dependencies (GathersTo IsLoose MergesTo)

/-! ## What pages collect -/

namespace Lowering

variable {r : Registry} {p : Platform}

/-- **One node** asks for no version. -/
theorem isLoose_visit {context : Context} (h : context.dependencies.IsLoose) (c : Component) :
    (visit r p context c).dependencies.IsLoose := by
  unfold visit
  cases r.get? c.type p with
  | none => exact h
  | some rule =>
    dsimp only
    rw [collect]
    cases rule.isIntrinsic with
    | true => exact h
    | false => exact h.addPath rule.importPath

/-- **Nodes one after the other** ask for no version. -/
theorem isLoose_foldl_visit {context : Context} (h : context.dependencies.IsLoose)
    (nodes : List Component) : (nodes.foldl (visit r p) context).dependencies.IsLoose := by
  induction nodes generalizing context with
  | nil => exact h
  | cons c nodes ih => exact ih (isLoose_visit h c)

end Lowering

/-! ## The tables of the manifest -/

namespace Project

variable {base : List (String × String)} {needed needed' : Dependencies}

/-- No package is needed twice. -/
theorem nodup_basePackages (p : Platform) : ((basePackages p).map Prod.fst).Nodup := by
  cases p <;> decide

/-- No package is needed twice for development. -/
theorem nodup_baseDevPackages (p : Platform) : ((baseDevPackages p).map Prod.fst).Nodup := by
  cases p <;> decide

/-- **Base packages keep their version,** and a collected one is there in any version. -/
theorem get?_withCollected (hbase : (base.map Prod.fst).Nodup) (h : needed.IsLoose)
    (name : String) :
    (withCollected base false needed).get? name =
      (base.lookup name).or (if needed.contains name then some "*" else none) := by
  have hkept : (needed.sorted.filter fun e => e.2.dev == false) = needed.sorted := by
    refine List.filter_eq_self.2 fun e he => ?_
    rw [h e.1 e.2 (Dependencies.mem_sorted_iff.1 he)]
    rfl
  have hfold : withCollected base false needed =
      (needed.sorted.map fun e => (e.1, e.2.version)).foldl Dict.insertNew (.ofList base) := by
    rw [withCollected, hkept, List.foldl_map]
    rfl
  rw [hfold, Dict.get?_foldl_insertNew, Dict.get?, Dict.entries_ofList_of_nodup hbase,
    Dict.lookup_map_snd, Dependencies.lookup_sorted, h.get?_eq]
  cases needed.contains name <;> rfl

/-- A table has the base packages and the collected ones. -/
theorem mem_keys_withCollected_iff (hbase : (base.map Prod.fst).Nodup) (h : needed.IsLoose)
    {name : String} :
    name ∈ (withCollected base false needed).keys ↔
      name ∈ base.map Prod.fst ∨ needed.contains name := by
  rw [← Dict.contains_iff, Dict.contains, get?_withCollected hbase h, Option.isSome_or,
    Bool.or_eq_true, Dict.lookup_isSome_iff]
  cases needed.contains name <;> simp

/-- A base package has its own version. -/
theorem get?_withCollected_of_mem (hbase : (base.map Prod.fst).Nodup) (h : needed.IsLoose)
    {e : String × String} (he : e ∈ base) :
    (withCollected base false needed).get? e.1 = some e.2 := by
  rw [get?_withCollected hbase h, (Dict.lookup_eq_some_iff_mem hbase).2 he, Option.some_or]

/-- A package that is only collected is there in any version. -/
theorem get?_withCollected_of_not_mem (hbase : (base.map Prod.fst).Nodup) (h : needed.IsLoose)
    {name : String} (hname : name ∈ (withCollected base false needed).keys)
    (hnot : name ∉ base.map Prod.fst) :
    (withCollected base false needed).get? name = some "*" := by
  have hnone : base.lookup name = none :=
    Option.not_isSome_iff_eq_none.1 (mt Dict.lookup_isSome_iff.1 hnot)
  have hcontains := ((mem_keys_withCollected_iff hbase h).1 hname).resolve_left hnot
  rw [get?_withCollected hbase h, hnone, Option.none_or, if_pos hcontains]

/-- **Nothing is collected for development.** -/
theorem withCollected_dev (h : needed.IsLoose) :
    withCollected base true needed = .ofList base := by
  have hnone : (needed.sorted.filter fun e => e.2.dev == true) = [] := by
    refine List.filter_eq_nil_iff.2 fun e he => ?_
    rw [h e.1 e.2 (Dependencies.mem_sorted_iff.1 he)]
    exact Bool.false_ne_true
  rw [withCollected, hnone, List.foldl_nil]

/-- A table of texts whose names are distinct has them as they are listed. -/
theorem textTable_ofList (hbase : (base.map Prod.fst).Nodup) :
    textTable (.ofList base) = .object (base.map fun e => (e.1, .string e.2)) := by
  change Json.object ((Dict.ofList base).entries.map _) = _
  rw [Dict.entries_ofList_of_nodup hbase]

/-- A table of texts holds no number. -/
theorem numberFree_textTable (d : Dict String String) : (textTable d).NumberFree := by
  rw [textTable, Json.ofDict, Json.NumberFree, Json.numberFreeFields_iff]
  intro e he
  obtain ⟨x, -, rfl⟩ := List.mem_map.1 he
  trivial

/-- The keys of a table of texts are distinct. -/
theorem distinct_textTable (d : Dict String String) : (textTable d).Distinct := by
  rw [textTable, Json.distinct_ofDict_iff]
  intro e he
  obtain ⟨x, -, rfl⟩ := List.mem_map.1 he
  trivial

/-- A table of texts has no brackets but its own. -/
theorem depth_textTable (d : Dict String String) : (textTable d).depth = 1 := by
  have htexts (l : List (String × String)) :
      Json.depthOfFields (l.map fun e => (e.1, .string e.2)) = 0 := by
    induction l with
    | nil => rfl
    | cons x xs ih =>
      rw [List.map_cons, Json.depthOfFields, ih]
      rfl
  exact congrArg (· + 1) (htexts d.entries)

/-- **The manifest is read back** as an object that has the two tables. -/
theorem exists_parse_packageManifest (config : Config) (p : Platform) (needed : Dependencies) :
    ∃ fields, packageManifest config p needed = (Json.object fields).pretty ++ "\n" ∧
      Json.parse (packageManifest config p needed) = .ok (.object fields) ∧
      fields.lookup "dependencies" =
        some (textTable (withCollected (basePackages p) false needed)) ∧
      fields.lookup "devDependencies" =
        some (textTable (withCollected (baseDevPackages p) true needed)) := by
  refine ⟨_, rfl, Json.parse_pretty ?_ ?_ ?_, rfl, rfl⟩
  · simp [Json.NumberFree, Json.NumberFreeFields, numberFree_textTable]
  · have hscripts : "build:" ++ p.id ≠ "dev:" ++ p.id := by cases p <;> decide
    simp [Json.Distinct, Json.DistinctFields, distinct_textTable, hscripts]
  · simp [Json.depth, Json.depthOfFields, depth_textTable, Json.maxDepth]

/-- The manifest reads what is collected package by package, in the order of their names. -/
theorem packageManifest_congr (config : Config) (p : Platform)
    (h : needed.sorted = needed'.sorted) :
    packageManifest config p needed = packageManifest config p needed' := by
  simp only [packageManifest, withCollected, h]

/-- **The packages of the pages** are gathered from one page after the other. -/
theorem Sources.gathersTo_collected (pages : List PageSource) :
    GathersTo (pages.map (·.dependencies)) (collected pages) := by
  -- the last page is merged into what the pages before it need
  induction pages using List.reverseRecOn with
  | nil => exact .nil
  | append_singleton pages page ih =>
    rw [collected, List.foldl_append, List.map_append]
    exact ih.concat (Dependencies.mergesTo_merge _ _)

end Project

namespace Generation

open Lowering (modules)
open Project (Sources basePackages baseDevPackages packageManifest)

variable {r : Registry} {p : Platform} {pages : List Page} {config : Project.Config}
  {placed : List Placed} {code : Sources}

/-- A page asks for no version. -/
theorem isLoose_pageOf (name : String) (root : Component) :
    (pageOf r p name root).context.dependencies.IsLoose :=
  Lowering.isLoose_foldl_visit Dependencies.isLoose_empty root.descendants

/-- **The packages of a page** are those of the modules of its tree. -/
theorem contains_pageOf (name : String) (root : Component) (package : String) :
    (pageOf r p name root).context.dependencies.contains package ↔
      ∃ module ∈ modules r p root.descendants, packageName? module = some package :=
  Lowering.contains_tree

/-- **The packages of a page** are those of the modules that it imports. Its style sheet, which it
may import as well, belongs to none. -/
theorem contains_pageOf_iff (name : String) (root : Component) (package : String) :
    (pageOf r p name root).context.dependencies.contains package ↔
      ∃ module ∈ (pageOf r p name root).context.imports.modules.keys,
        packageName? module = some package := by
  have hsheet : packageName? pageStylesPath = none := by decide
  simp only [contains_pageOf, mem_keys_pageOf, modules, List.mem_eraseDups, List.mem_filterMap]
  constructor
  · rintro ⟨module, hmodule, hpackage⟩
    exact ⟨module, .inl hmodule, hpackage⟩
  · rintro ⟨module, hmodule | ⟨-, rfl⟩, hpackage⟩
    · exact ⟨module, hmodule, hpackage⟩
    · rw [hsheet] at hpackage
      cases hpackage

/-- Some page imports a module of a package. -/
def ImportsPackage (code : Sources) (package : String) : Prop :=
  ∃ source ∈ code.pages.values, ∃ module ∈ source.imports.modules.keys,
    packageName? module = some package

/-- Some of several pages has a node that is imported of a module of a package. -/
def NeedsPackage (r : Registry) (p : Platform) (pages : List Page) (package : String) : Prop :=
  ∃ page ∈ pages, ∃ root, page.components = some root ∧
    ∃ module ∈ modules r p root.descendants, packageName? module = some package

namespace Placing

/-- No page of a project asks for a version. -/
theorem isLoose (h : Placing r p pages placed) :
    ∀ d ∈ (placed.map Placed.source).map (·.dependencies), d.IsLoose := by
  rw [List.forall_mem_map, List.forall_mem_map]
  intro e he
  obtain ⟨root, -, houtput⟩ := h.exists_pageOf he
  rw [Placed.source, houtput]
  exact isLoose_pageOf e.name root

/-- **What the pages need** is read off their trees, whatever directories they get. -/
theorem exists_contains_iff (h : Placing r p pages placed) (package : String) :
    (∃ d ∈ (placed.map Placed.source).map (·.dependencies), d.contains package) ↔
      NeedsPackage r p pages package := by
  rw [NeedsPackage, ← h.map_page]
  simp only [List.mem_map, exists_exists_and_eq_and]
  refine exists_congr fun e => and_congr_right fun he => ?_
  obtain ⟨root, hroot, houtput⟩ := h.exists_pageOf he
  rw [Placed.source, houtput, hroot]
  simp only [Option.some.injEq, exists_eq_left']
  exact contains_pageOf e.name root package

/-- **They are the packages that the pages import.** -/
theorem importsPackage_iff (h : Placing r p pages placed) (package : String) :
    ImportsPackage (assemble placed p config) package ↔ NeedsPackage r p pages package := by
  rw [← h.exists_contains_iff, ImportsPackage, h.values_pages]
  simp only [List.mem_map, exists_exists_and_eq_and]
  refine exists_congr fun e => and_congr_right fun he => ?_
  obtain ⟨root, -, houtput⟩ := h.exists_pageOf he
  rw [Placed.source, houtput]
  exact (contains_pageOf_iff e.name root package).symm

/-- **No order counts:** the packages by name are the same for the pages in another order, however
they are gathered. -/
theorem sorted_eq (h : Placing r p pages placed) {pages' : List Page} {placed' : List Placed}
    (h' : Placing r p pages' placed') (hpages : pages'.Perm pages) {ds : List Dependencies}
    {d : Dependencies} (hds : ds.Perm ((placed'.map Placed.source).map (·.dependencies)))
    (hd : GathersTo ds d) : d.sorted = (Sources.collected (placed.map Placed.source)).sorted := by
  have hnames : ∀ package, (∃ e ∈ ds, e.contains package) ↔
      ∃ e ∈ (placed.map Placed.source).map (·.dependencies), e.contains package := by
    intro package
    rw [h.exists_contains_iff, NeedsPackage]
    simp only [hds.mem_iff, ← hpages.mem_iff]
    exact h'.exists_contains_iff package
  have hloose : ∀ e ∈ ds, e.IsLoose := fun e he => h'.isLoose e (hds.mem_iff.1 he)
  exact hd.sorted_eq (Sources.gathersTo_collected _) hnames hloose h.isLoose

/-- The manifest is one of the files. -/
theorem packageManifest_mem_contents (h : Placing r p pages placed) (config : Project.Config) :
    ("package.json", packageManifest config p (Sources.collected (placed.map Placed.source))) ∈
      (assemble placed p config).toFileSet.contents := by
  refine Sources.config_mem_contents (h.nodup_registered config) ?_ fun hempty => ?_
  · rw [entries_configs]
    exact .tail _ (.tail _ (.tail _ (.head _)))
  · exact absurd (String.append_eq_empty_iff.1 hempty).2 (by decide)

end Placing

/-- **The package manifest covers the sources.** It is the text of a JSON object, and is read as
that object, which has two tables. Under `dependencies` stand the packages that every project for
the platform needs, with the versions they are pinned to, and, in any version, every other package
that a page imports a module of; under `devDependencies` stand the packages that every project
needs for development. With the same pages in another order the manifest is the same. It is also
the same if the packages of the pages are merged in any order, page by page and package by package,
kept in any order on the way and merged once more into what the manifest is made from. -/
theorem generateProject_packages (h : generateProject r pages p config = .ok code) :
    ∃ text fields, ∃ table : Dict String String,
      ("package.json", text) ∈ code.toFileSet.contents ∧
      text = (Json.object fields).pretty ++ "\n" ∧
      Json.parse text = .ok (.object fields) ∧
      fields.lookup "dependencies" =
        some (.object (table.entries.map fun e => (e.1, .string e.2))) ∧
      fields.lookup "devDependencies" =
        some (.object ((baseDevPackages p).map fun e => (e.1, .string e.2))) ∧
      (∀ package, package ∈ table.keys ↔
        package ∈ (basePackages p).map Prod.fst ∨ ImportsPackage code package) ∧
      (∀ e ∈ basePackages p, table.get? e.1 = some e.2) ∧
      (∀ package ∈ table.keys, package ∉ (basePackages p).map Prod.fst →
        table.get? package = some "*") ∧
      (∀ pages', pages'.Perm pages → ∃ code', generateProject r pages' p config = .ok code' ∧
        ("package.json", text) ∈ code'.toFileSet.contents) ∧
      ∀ ds d d', ds.Perm (code.pages.values.map (·.dependencies)) → GathersTo ds d →
        MergesTo ∅ d d' → packageManifest config p d' = text := by
  obtain ⟨placed, hplacing, rfl⟩ := generateProject_eq_ok_iff.1 h
  let needed := Sources.collected (placed.map Placed.source)
  have hgathered := Sources.gathersTo_collected (placed.map Placed.source)
  have hloose : needed.IsLoose := hgathered.isLoose hplacing.isLoose
  have hcontains : ∀ package, needed.contains package ↔
      ImportsPackage (assemble placed p config) package := by
    intro package
    rw [hplacing.importsPackage_iff, ← hplacing.exists_contains_iff, hgathered.contains_iff]
  have hbase := Project.nodup_basePackages p
  obtain ⟨fields, htext, hparse, hfields, hdev⟩ :=
    Project.exists_parse_packageManifest config p needed
  refine ⟨packageManifest config p needed, fields,
    Project.withCollected (basePackages p) false needed,
    hplacing.packageManifest_mem_contents config, htext, hparse, hfields, ?_, fun package => ?_,
    fun e he => Project.get?_withCollected_of_mem hbase hloose he,
    fun package hkey hnot => Project.get?_withCollected_of_not_mem hbase hloose hkey hnot, ?_, ?_⟩
  · rw [hdev, Project.withCollected_dev hloose,
      Project.textTable_ofList (Project.nodup_baseDevPackages p)]
  · rw [Project.mem_keys_withCollected_iff hbase hloose, hcontains]
  · intro pages' hpages
    have hfaults := (exists_generateProject_iff r pages p config).1 ⟨_, h⟩
    obtain ⟨code', hcode'⟩ := (exists_generateProject_iff r pages' p config).2
      fun page hpage => hfaults page (hpages.mem_iff.1 hpage)
    obtain ⟨placed', hplacing', rfl⟩ := generateProject_eq_ok_iff.1 hcode'
    have hsorted := hplacing.sorted_eq hplacing' hpages .rfl (Sources.gathersTo_collected _)
    refine ⟨_, hcode', ?_⟩
    rw [← Project.packageManifest_congr config p hsorted]
    exact hplacing'.packageManifest_mem_contents config
  · intro ds d d' hds hd hd'
    rw [hplacing.values_pages] at hds
    have hsame : d'.sorted = d.sorted :=
      Dependencies.sorted_eq_of_get? fun name => (hd'.get? name).trans Option.none_or
    exact Project.packageManifest_congr config p
      (hsame.trans (hplacing.sorted_eq hplacing .rfl hds hd))

/-- The hypothesis of `generateProject_packages` is satisfiable: a page imports modules of a
package that no project needs and of one that every project needs, and the latter keeps its
version. -/
theorem badgeRoot_packages :
    ∃ code text fields, ∃ table : Dict String String,
      generateProject Lowering.cardRegistry [⟨"Home", none, some Lowering.badgeRoot⟩] .h5
        (.new "shop" .h5) = .ok code ∧
      ImportsPackage code "@tarojs/components" ∧
      ("package.json", text) ∈ code.toFileSet.contents ∧
      text = (Json.object fields).pretty ++ "\n" ∧
      Json.parse text = .ok (.object fields) ∧
      fields.lookup "dependencies" =
        some (.object (table.entries.map fun e => (e.1, .string e.2))) ∧
      table.get? "@acme/ui" = some "*" ∧
      table.get? "@tarojs/components" = some "^3.6.0" := by
  have hfaults : ∀ page ∈ [(⟨"Home", none, some Lowering.badgeRoot⟩ : Page)],
      fault? Lowering.cardRegistry .h5 page = none := by
    decide
  obtain ⟨code, hcode⟩ := (exists_generateProject_iff _ _ .h5 (.new "shop" .h5)).2 hfaults
  obtain ⟨text, fields, table, hfile, htext, hparse, hfields, -, hkeys, hbase, hother, -, -⟩ :=
    generateProject_packages hcode
  have himports : ∀ package, (∃ module ∈ modules Lowering.cardRegistry .h5
      Lowering.badgeRoot.descendants, packageName? module = some package) →
      ImportsPackage code package := by
    intro package hmodule
    obtain ⟨placed, hplacing, rfl⟩ := generateProject_eq_ok_iff.1 hcode
    exact (hplacing.importsPackage_iff package).2 ⟨_, .head _, _, rfl, hmodule⟩
  have hacme : ImportsPackage code "@acme/ui" := himports _ ⟨"@acme/ui/card", by decide⟩
  have hnot : "@acme/ui" ∉ (basePackages .h5).map Prod.fst := by decide
  have htaro : ImportsPackage code "@tarojs/components" :=
    himports _ ⟨"@tarojs/components", by decide⟩
  exact ⟨code, text, fields, table, hcode, htaro, hfile, htext, hparse, hfields,
    hother _ ((hkeys _).2 (.inr hacme)) hnot, hbase ("@tarojs/components", _) (.head _)⟩

end Generation
end Pagewright
