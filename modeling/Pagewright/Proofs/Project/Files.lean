/-
# The files of a project

A project registers its files kind by kind (`registered`). A file registered under a
known path takes the place of the earlier one; where all paths are distinct nothing does,
and the files come out as they were registered, one category after the other
(`contents_toFileSet`):

| category | files |
| --- | --- |
| `config` | the configuration files but those of the application |
| `app` | the configuration files, then the style sheets, of the application |
| `page` | the pages, each with its configuration behind it, then the components |
| `style` | the style sheets but the application's |

A configuration file without content is not among them.
-/

import Pagewright.Project.Sources
import Mathlib.Data.List.Basic

namespace Pagewright
namespace Project

namespace FileSet

/-- Registers files one after the other. -/
def registerAll (s : FileSet) (l : List (String × File)) : FileSet := ⟨s.files.insertAll l⟩

/-- Files and more files are registered one after the other. -/
theorem registerAll_append (s : FileSet) (l l' : List (String × File)) :
    s.registerAll (l ++ l') = (s.registerAll l).registerAll l' := by
  simp only [registerAll, Dict.insertAll, List.foldl_append]

/-- **A step for each member of a list** that registers some files registers them all, in order. -/
theorem foldl_eq_registerAll {α : Type u} {step : FileSet → α → FileSet}
    {f : α → List (String × File)} (h : ∀ s a, step s a = s.registerAll (f a)) (l : List α)
    (s : FileSet) : l.foldl step s = s.registerAll (l.flatMap f) := by
  induction l generalizing s with
  | nil => rfl
  | cons a l ih => rw [List.foldl_cons, h, ih, List.flatMap_cons, registerAll_append]

/-- The files of a category, with their paths. -/
def inCategory (c : Category) (l : List (String × File)) : List (String × String) :=
  (l.filter fun e => e.2.category = c).map fun e => (e.1, e.2.content)

/-- A category of two lists of files is that of each. -/
@[simp] theorem inCategory_append (c : Category) (l l' : List (String × File)) :
    inCategory c (l ++ l') = inCategory c l ++ inCategory c l' := by
  rw [inCategory, List.filter_append, List.map_append]
  rfl

/-- A category of several lists of files is that of each, in order. -/
theorem inCategory_flatMap {α : Type u} (c : Category) (f : α → List (String × File))
    (l : List α) : inCategory c (l.flatMap f) = l.flatMap fun a => inCategory c (f a) := by
  rw [inCategory, List.filter_flatMap, List.map_flatMap]
  rfl

/-- **Nothing is replaced** where the paths are distinct. -/
theorem entries_registerAll {l : List (String × File)} (h : (l.map Prod.fst).Nodup) :
    ((∅ : FileSet).registerAll l).files.entries = l :=
  Dict.entries_ofList_of_nodup h

/-- The files come out category by category. -/
theorem contents_registerAll {l : List (String × File)} (h : (l.map Prod.fst).Nodup) :
    ((∅ : FileSet).registerAll l).contents = Category.all.flatMap fun c => inCategory c l := by
  rw [contents, entries, entries_registerAll h, List.map_flatMap]
  rfl

/-- Each file is in one category. -/
theorem entries_perm (s : FileSet) : s.entries.Perm s.files.entries := by
  have hcount : ∀ (e : String × File) (c : Category) (l : List (String × File)),
      (l.filter fun e => e.2.category = c).count e = if e.2.category = c then l.count e else 0 := by
    intro e c l
    split
    · next h => exact List.count_filter (by simpa using h)
    · next h => exact List.count_eq_zero.2 fun hm => h (by simpa using (List.mem_filter.1 hm).2)
  refine List.perm_iff_count.2 fun e => ?_
  simp only [entries, Category.all, List.flatMap_cons, List.flatMap_nil, List.append_nil,
    List.count_append, hcount]
  cases e.2.category <;> simp

/-- Files come out under the paths they are registered under. -/
theorem paths_perm (s : FileSet) : (s.contents.map Prod.fst).Perm s.files.keys := by
  have hpaths : s.contents.map Prod.fst = s.entries.map Prod.fst := by
    rw [contents, List.map_map]
    rfl
  rw [hpaths]
  exact s.entries_perm.map Prod.fst

/-- **No path comes out twice.** -/
theorem nodup_paths (s : FileSet) : (s.contents.map Prod.fst).Nodup :=
  s.paths_perm.nodup_iff.2 s.files.nodup_keys

end FileSet

namespace Sources

open FileSet (registerAll inCategory inCategory_flatMap)

/-- The file of a configuration, unless it has no content. -/
def configFiles (e : String × String) : List (String × File) :=
  if e.2.isEmpty then []
  else
    [(e.1, ⟨e.2, if isAppPath e.1 then .app else .config,
      if e.1 = developerConfigPath then .ifMissing else .always⟩)]

/-- The paths and texts of a page: its code, and its configuration if it has one. -/
def pageTexts (e : String × PageSource) : List (String × String) :=
  (sourcePath e.1, e.2.code) ::
    e.2.config.toList.map fun text => (pageConfigPath (directoryOf e.1), text)

/-- The files of a page. -/
def pageFiles (e : String × PageSource) : List (String × File) :=
  (pageTexts e).map fun t => (t.1, ⟨t.2, .page, .always⟩)

/-- The file of a component. -/
def componentFiles (e : String × String) : List (String × File) :=
  [(sourcePath e.1, ⟨e.2, .page, .always⟩)]

/-- The file of a style sheet. -/
def styleFiles (e : String × String) : List (String × File) :=
  [(e.1, ⟨e.2, if isAppPath e.1 then .app else .style, .always⟩)]

/-- The files that a project registers, in order. -/
def registered (code : Sources) : List (String × File) :=
  code.configs.entries.flatMap configFiles ++ code.pages.entries.flatMap pageFiles ++
    code.components.entries.flatMap componentFiles ++ code.styles.entries.flatMap styleFiles

/-- A configuration file is registered under its path, unless it has no content. -/
theorem addConfig_eq (s : FileSet) (e : String × String) :
    addConfig s e = s.registerAll (configFiles e) := by
  unfold addConfig configFiles
  split <;> rfl

/-- A page is registered with its code and its configuration. -/
theorem addPage_eq (s : FileSet) (e : String × PageSource) :
    addPage s e = s.registerAll (pageFiles e) := by
  unfold addPage pageFiles pageTexts
  dsimp only
  cases e.2.config <;> rfl

theorem addComponent_eq (s : FileSet) (e : String × String) :
    s.add .page (sourcePath e.1) e.2 = s.registerAll (componentFiles e) := rfl

theorem addStyle_eq (s : FileSet) (e : String × String) :
    addStyle s e = s.registerAll (styleFiles e) := rfl

/-- **A project registers** its files kind by kind. -/
theorem toFileSet_eq (code : Sources) :
    code.toFileSet = (∅ : FileSet).registerAll code.registered := by
  rw [toFileSet, FileSet.foldl_eq_registerAll addConfig_eq, FileSet.foldl_eq_registerAll addPage_eq,
    FileSet.foldl_eq_registerAll addComponent_eq, FileSet.foldl_eq_registerAll addStyle_eq]
  simp only [registered, FileSet.registerAll_append]

/-- Keeping members one by one is filtering. -/
theorem flatMap_ite_singleton {α : Type u} (p : α → Bool) (l : List α) :
    (l.flatMap fun a => if p a then [a] else []) = l.filter p := by
  induction l with
  | nil => rfl
  | cons a l ih => rw [List.flatMap_cons, ih, List.filter_cons]; split <;> rfl

section Category

variable (c : Category)

/-- Of the configuration files those with content are in a category, the application's in its
own. -/
theorem inCategory_configs (l : List (String × String)) :
    inCategory c (l.flatMap configFiles) =
      l.filter fun e => !e.2.isEmpty && (if isAppPath e.1 then Category.app else .config) = c := by
  rw [inCategory_flatMap, ← flatMap_ite_singleton]
  refine List.flatMap_congr fun e _ => ?_
  by_cases hempty : e.2.isEmpty
  · simp [configFiles, inCategory, hempty]
  · by_cases hcategory : (if isAppPath e.1 then Category.app else .config) = c <;>
      simp [configFiles, inCategory, hempty, hcategory]

/-- The files of pages are all in the category of pages. -/
theorem inCategory_pages (l : List (String × PageSource)) :
    inCategory c (l.flatMap pageFiles) = if c = .page then l.flatMap pageTexts else [] := by
  rw [inCategory_flatMap]
  split
  · next h => simp [inCategory, pageFiles, List.filter_map, Function.comp_def, h]
  · next h => simp [inCategory, pageFiles, List.filter_map, Function.comp_def, Ne.symm h]

/-- The files of components are in the category of pages. -/
theorem inCategory_components (l : List (String × String)) :
    inCategory c (l.flatMap componentFiles) =
      if c = .page then l.map fun e => (sourcePath e.1, e.2) else [] := by
  rw [inCategory_flatMap, List.map_eq_flatMap]
  split
  · next h => simp [inCategory, componentFiles, h]
  · next h => simp [inCategory, componentFiles, Ne.symm h]

/-- The application's style sheets are in its category, the others in that of styles. -/
theorem inCategory_styles (l : List (String × String)) :
    inCategory c (l.flatMap styleFiles) =
      l.filter fun e => (if isAppPath e.1 then Category.app else .style) = c := by
  rw [inCategory_flatMap, ← flatMap_ite_singleton]
  refine List.flatMap_congr fun e _ => ?_
  by_cases hcategory : (if isAppPath e.1 then Category.app else .style) = c <;>
    simp [styleFiles, inCategory, hcategory]

end Category

/-- **What comes out is what is registered**, where all paths are distinct: each file with its
own content, category by category. -/
theorem contents_toFileSet {code : Sources} (h : (code.registered.map Prod.fst).Nodup) :
    code.toFileSet.contents =
      code.configs.entries.filter (fun e => !e.2.isEmpty && !isAppPath e.1) ++
      (code.configs.entries.filter (fun e => !e.2.isEmpty && isAppPath e.1) ++
        code.styles.entries.filter fun e => isAppPath e.1) ++
      (code.pages.entries.flatMap pageTexts ++
        code.components.entries.map fun e => (sourcePath e.1, e.2)) ++
      code.styles.entries.filter fun e => !isAppPath e.1 := by
  rw [toFileSet_eq, FileSet.contents_registerAll h]
  simp [Category.all, registered, inCategory_configs, inCategory_pages, inCategory_components,
    inCategory_styles, ite_eq_iff]

/-- **A configuration file with content** comes out as it is, where all paths are distinct. -/
theorem config_mem_contents {code : Sources} (h : (code.registered.map Prod.fst).Nodup)
    {e : String × String} (he : e ∈ code.configs.entries) (htext : e.2 ≠ "") :
    e ∈ code.toFileSet.contents := by
  have hkept : (!e.2.isEmpty) = true := by simpa using htext
  rw [contents_toFileSet h, List.mem_append, List.mem_append, List.mem_append, List.mem_append]
  cases happ : isAppPath e.1 with
  | false => exact .inl (.inl (.inl (List.mem_filter.2 ⟨he, by rw [hkept, happ]; rfl⟩)))
  | true => exact .inl (.inl (.inr (.inl (List.mem_filter.2 ⟨he, by rw [hkept, happ]; rfl⟩))))

/-- They come out under the paths they are registered under. -/
theorem paths_toFileSet {code : Sources} (h : (code.registered.map Prod.fst).Nodup) :
    (code.toFileSet.contents.map Prod.fst).Perm (code.registered.map Prod.fst) := by
  have hpaths := code.toFileSet.paths_perm
  rwa [Dict.keys, toFileSet_eq, FileSet.entries_registerAll h, ← toFileSet_eq] at hpaths

section Paths

variable (l : List (String × String))

/-- Registered configuration files keep their paths and their order. -/
theorem paths_configs : ((l.flatMap configFiles).map Prod.fst).Sublist (l.map Prod.fst) := by
  induction l with
  | nil => exact .slnil
  | cons e l ih =>
    rw [List.flatMap_cons, List.map_append, List.map_cons, configFiles]
    split
    · exact ih.cons _
    · exact ih.cons_cons _

/-- The paths of pages are those of their texts. -/
theorem paths_pages (l : List (String × PageSource)) :
    (l.flatMap pageFiles).map Prod.fst = (l.flatMap pageTexts).map Prod.fst := by
  rw [List.map_flatMap, List.map_flatMap]
  exact List.flatMap_congr fun e _ => by rw [pageFiles, List.map_map]; rfl

/-- The paths of style sheets are their keys. -/
theorem paths_styles : (l.flatMap styleFiles).map Prod.fst = l.map Prod.fst := by
  rw [List.map_flatMap, List.map_eq_flatMap]
  rfl

end Paths

end Sources
end Project
end Pagewright
