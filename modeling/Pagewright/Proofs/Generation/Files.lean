/-
# The files of a generated project

A generated project has its files at two places: those of the application at the top, and
those of a page in the directory of the page (`IsFilePath`). The directories are distinct,
so no file takes the place of another, and since their names are segments, every path can
be written (`generateProject_files`), whatever the pages are called.
-/

import Pagewright.Proofs.Generation.Routes
import Pagewright.Proofs.Project.Files
import Pagewright.Proofs.Project.Paths

namespace Pagewright
namespace Generation

open Naming (isDirectoryChar)
open Project (FileSet IsSafe Sources Writable segments segments_append segments_ne_nil
  segments_of_not_mem)
open Project.Sources (sourcePath pageConfigPath directoryOf pageTexts registered isAppPath)

/-! ## Where files stand -/

/-- The paths at the top of a project. -/
def topPaths : List String :=
  [Project.appConfigPath, Project.appEntryPath, Project.developerConfigPath,
    Project.packageManifestPath, Project.compilerConfigPath, Project.appStylesPath]

/-- The names of the files in the directory of a page. -/
def pageFileNames : List String := ["index.tsx", "index.config.ts", "index.scss"]

/-- The path of a file in the directory of a page. -/
def pagePath (name file : String) : String := directory name ++ "/" ++ file

/-- The path of a file of a project. -/
inductive IsFilePath : String → Prop
  | top {path : String} (h : path ∈ topPaths) : IsFilePath path
  | page {name file : String} (hn : IsSegment name) (hf : file ∈ pageFileNames) :
      IsFilePath (pagePath name file)

section Paths

variable {name name' file file' path : String}

/-- A segment is the only one of itself as a path. -/
theorem IsSegment.segments (h : IsSegment name) : segments name = [name.toList] :=
  segments_of_not_mem fun hslash => absurd (h.chars _ hslash) (by decide)

theorem appStylesPath_mem_topPaths : Project.appStylesPath ∈ topPaths := by decide

/-- A path at the top has one segment. -/
theorem segments_of_mem_topPaths (h : path ∈ topPaths) : segments path = [path.toList] := by
  have htop : ∀ path ∈ topPaths, '/' ∉ path.toList := by decide
  exact segments_of_not_mem (htop path h)

/-- The path of a page's file has three segments. -/
theorem segments_pagePath (hn : IsSegment name) (hf : file ∈ pageFileNames) :
    segments (pagePath name file) = ["pages".toList, name.toList, file.toList] := by
  have hfile : ∀ file ∈ pageFileNames, '/' ∉ file.toList := by decide
  have hpages : directory name = "pages" ++ "/" ++ name := rfl
  rw [pagePath, segments_append, hpages, segments_append, hn.segments,
    segments_of_not_mem (hfile file hf), segments_of_not_mem (by decide)]
  rfl

/-- **The path of a page's file** tells the directory and the file. -/
theorem pagePath_inj (hn : IsSegment name) (hn' : IsSegment name') (hf : file ∈ pageFileNames)
    (hf' : file' ∈ pageFileNames) (h : pagePath name file = pagePath name' file') :
    name = name' ∧ file = file' := by
  have hsegments := congrArg segments h
  rw [segments_pagePath hn hf, segments_pagePath hn' hf'] at hsegments
  simpa [String.toList_inj] using hsegments

/-- No file of a page stands at the top. -/
theorem pagePath_not_mem_topPaths (hn : IsSegment name) (hf : file ∈ pageFileNames) :
    pagePath name file ∉ topPaths := by
  intro h
  have hsegments := segments_of_mem_topPaths h
  rw [segments_pagePath hn hf] at hsegments
  simp at hsegments

/-- **No name leads elsewhere.** -/
theorem IsFilePath.isSafe (h : IsFilePath path) : IsSafe path := by
  cases h with
  | top h =>
    have htop : ∀ path ∈ topPaths, IsSafe path := by decide
    exact htop path h
  | @page name file hn hf =>
    have hdot : '.' ∉ name.toList := fun hm => absurd (hn.chars _ hm) (by decide)
    have hname : name.toList ≠ [] ∧ name.toList ≠ ['.'] ∧ name.toList ≠ ['.', '.'] := by
      refine ⟨fun h => hn.ne_empty (String.toList_inj.1 h), fun h => hdot ?_, fun h => hdot ?_⟩
      · rw [h]
        exact .head _
      · rw [h]
        exact .head _
    have hfile : ∀ file ∈ pageFileNames,
        file.toList ≠ [] ∧ file.toList ≠ ['.'] ∧ file.toList ≠ ['.', '.'] := by
      decide
    rw [IsSafe, segments_pagePath hn hf]
    simp only [List.forall_mem_cons]
    exact ⟨by decide, hname, hfile file hf, by simp⟩

/-- **No file stands where a directory is needed.** -/
theorem IsFilePath.ne_below {a b : String} (ha : IsFilePath a) (hb : IsFilePath b)
    (rest : String) : b ≠ a ++ "/" ++ rest := by
  intro h
  have hsegments := congrArg segments h
  rw [segments_append] at hsegments
  have hrest := List.length_pos_iff.2 (segments_ne_nil rest)
  cases hb with
  | top hb =>
    rw [segments_of_mem_topPaths hb] at hsegments
    have ha' := List.length_pos_iff.2 (segments_ne_nil a)
    have hlength := congrArg List.length hsegments
    rw [List.length_append, List.length_singleton] at hlength
    omega
  | page hn hf =>
    rw [segments_pagePath hn hf] at hsegments
    cases ha with
    | top ha =>
      rw [segments_of_mem_topPaths ha] at hsegments
      have hpages : a = "pages" := (String.toList_inj.1 (List.cons.inj hsegments).1).symm
      exact absurd ha (hpages ▸ by decide)
    | page hn' hf' =>
      rw [segments_pagePath hn' hf'] at hsegments
      have hlength := congrArg List.length hsegments
      rw [List.length_append] at hlength
      simp only [List.length_cons, List.length_nil] at hlength
      omega

end Paths

/-! ## The files of a page -/

/-- The route of a page lies in the directory of the page. -/
theorem directoryOf_route (name : String) : directoryOf (route name) = directory name := by
  have hroute : (route name).toList = (directory name).toList ++ '/' :: "index".toList := by
    rw [route, String.toList_append]
    rfl
  rw [directoryOf, hroute, Text.splitLast?_append (by decide)]
  exact String.ofList_toList

/-- The code of a page stands in the directory of the page. -/
theorem route_append (name : String) : route name ++ ".tsx" = pagePath name "index.tsx" := by
  simp [route, pagePath, String.append_assoc]

/-- The configuration of a page stands in the directory of the page. -/
theorem directory_append_config (name : String) :
    directory name ++ "/index.config.ts" = pagePath name "index.config.ts" := by
  simp [pagePath, String.append_assoc]

/-- The style sheet of a page stands in the directory of the page. -/
theorem directory_append_styles (name : String) :
    directory name ++ "/index.scss" = pagePath name "index.scss" := by
  simp [pagePath, String.append_assoc]

namespace Placed

/-- The paths and texts of the page and, if it has a title, of its configuration. -/
def texts (e : Placed) : List (String × String) :=
  (e.route ++ ".tsx", e.output.code) ::
    e.page.title.toList.map fun title =>
      (directory e.name ++ "/index.config.ts", Project.pageConfig title)

/-- The texts that are registered for a page are those of the page in its directory. -/
theorem pageTexts_source (e : Placed) : pageTexts (e.route, e.source) = e.texts := by
  rw [pageTexts, texts, Placed.route, directoryOf_route]
  cases htitle : e.page.title <;> simp [source, htitle, sourcePath, pageConfigPath]

/-- A text of a page has a path in the directory of the page, not that of the style sheet. -/
theorem path_of_mem_texts {e : Placed} {path : String} (h : path ∈ e.texts.map Prod.fst) :
    ∃ file ∈ pageFileNames, file ≠ "index.scss" ∧ path = pagePath e.name file := by
  rw [texts, List.map_cons, List.mem_cons, List.map_map] at h
  rcases h with h | h
  · exact ⟨"index.tsx", by decide, by decide, h.trans (route_append e.name)⟩
  · obtain ⟨title, -, rfl⟩ := List.mem_map.1 h
    exact ⟨"index.config.ts", by decide, by decide, directory_append_config e.name⟩

end Placed

/-- The style sheets of pages are those with a text, under their paths. -/
theorem filterMap_styles? (placed : List Placed) :
    placed.filterMap Placed.styles? =
      (placed.filter fun e => !e.output.styles.isEmpty).map fun e =>
        (pagePath e.name "index.scss", e.output.styles) := by
  induction placed with
  | nil => rfl
  | cons e placed ih =>
    rw [List.filterMap_cons, List.filter_cons, ih, Placed.styles?, directory_append_styles]
    cases e.output.styles.isEmpty <;> rfl

namespace Placing

variable {r : Registry} {p : Platform} {pages : List Page} {config : Project.Config}
  {placed : List Placed} {code : Project.Sources}

/-- A file that each page has stands at as many paths as there are pages. -/
theorem nodup_pagePaths (h : Placing r p pages placed) {file : String} (hf : file ∈ pageFileNames) :
    (placed.map fun e => pagePath e.name file).Nodup := by
  have hpaths : (placed.map fun e => pagePath e.name file) =
      (placed.map Placed.name).map (pagePath · file) := by
    rw [List.map_map]
    rfl
  rw [hpaths]
  refine h.nodup_names.map_on fun a ha b hb hab => ?_
  obtain ⟨e, he, rfl⟩ := List.mem_map.1 ha
  obtain ⟨e', he', rfl⟩ := List.mem_map.1 hb
  exact (pagePath_inj (h.isSegment he) (h.isSegment he') hf hf hab).1

/-- The files of the pages stand at distinct paths. -/
theorem nodup_texts (h : Placing r p pages placed) :
    ((placed.flatMap Placed.texts).map Prod.fst).Nodup := by
  rw [List.map_flatMap, List.nodup_flatMap]
  constructor
  · intro e he
    have hne : pagePath e.name "index.tsx" ≠ pagePath e.name "index.config.ts" := fun heq =>
      absurd (pagePath_inj (h.isSegment he) (h.isSegment he) (by decide) (by decide) heq).2
        (by decide)
    rw [Placed.texts, Placed.route, route_append, directory_append_config]
    cases e.page.title <;> simp [hne]
  · have hnames : placed.Pairwise fun a b => a.name ≠ b.name := List.pairwise_map.1 h.nodup_names
    refine hnames.imp_of_mem fun {a b} ha hb hab path hpa hpb => hab ?_
    obtain ⟨file, hf, -, rfl⟩ := Placed.path_of_mem_texts hpa
    obtain ⟨file', hf', -, heq⟩ := Placed.path_of_mem_texts hpb
    exact (pagePath_inj (h.isSegment ha) (h.isSegment hb) hf hf' heq).1

/-- **No style sheet is lost.** -/
theorem entries_styles (h : Placing r p pages placed) (config : Project.Config) :
    (assemble placed p config).styles.entries =
      placed.filterMap Placed.styles? ++
        if (globalSheet config p).isEmpty then []
        else [(Project.appStylesPath, (globalSheet config p).render)] := by
  refine Dict.entries_ofList_of_nodup ?_
  have hsheets : (placed.filterMap Placed.styles?).map Prod.fst =
      (placed.filter fun e => !e.output.styles.isEmpty).map fun e =>
        pagePath e.name "index.scss" := by
    rw [filterMap_styles?, List.map_map]
    rfl
  have hnodup : ((placed.filterMap Placed.styles?).map Prod.fst).Nodup := by
    rw [hsheets]
    exact (h.nodup_pagePaths (by decide)).sublist (List.filter_sublist.map _)
  rw [List.map_append]
  split
  · rwa [List.map_nil, List.append_nil]
  · refine List.nodup_append_comm.1 (List.nodup_cons.2 ⟨fun hm => ?_, hnodup⟩)
    rw [hsheets] at hm
    obtain ⟨e, he, heq⟩ := List.mem_map.1 hm
    have happ : pagePath e.name "index.scss" ∈ topPaths := heq ▸ appStylesPath_mem_topPaths
    exact pagePath_not_mem_topPaths (h.isSegment (List.mem_of_mem_filter he)) (by decide) happ

/-- A style sheet is that of a page or the application's. -/
theorem path_of_mem_styles (h : Placing r p pages placed) {path : String}
    (hm : path ∈ (assemble placed p config).styles.keys) :
    (∃ e ∈ placed, path = pagePath e.name "index.scss") ∨ path = Project.appStylesPath := by
  rw [Dict.keys, h.entries_styles, filterMap_styles?, List.map_append, List.mem_append,
    List.map_map] at hm
  rcases hm with hm | hm
  · obtain ⟨e, he, rfl⟩ := List.mem_map.1 hm
    exact .inl ⟨e, List.mem_of_mem_filter he, rfl⟩
  · split at hm
    · cases hm
    · exact .inr (List.mem_singleton.1 hm)

/-- A configuration file stands at the top, and not in the place of the style sheet. -/
theorem path_of_mem_configs {path : String} (hm : path ∈ (assemble placed p config).configs.keys) :
    path ∈ topPaths ∧ path ≠ Project.appStylesPath := by
  rw [Dict.keys, entries_configs] at hm
  have hconfigs : ∀ path ∈ [Project.appConfigPath, Project.appEntryPath,
      Project.developerConfigPath, Project.packageManifestPath, Project.compilerConfigPath],
      path ∈ topPaths ∧ path ≠ Project.appStylesPath := by
    decide
  exact hconfigs path hm

/-- The texts of all pages are those of each in its directory. -/
theorem pageTexts_pages (h : Placing r p pages placed) :
    (assemble placed p config).pages.entries.flatMap pageTexts = placed.flatMap Placed.texts := by
  rw [h.entries_pages, List.flatMap_map]
  exact List.flatMap_congr fun e _ => e.pageTexts_source

/-- **The registered paths:** configuration files, then the files of pages, then style sheets. -/
theorem paths_registered (h : Placing r p pages placed) (config : Project.Config) :
    (assemble placed p config).registered.map Prod.fst =
      ((assemble placed p config).configs.entries.flatMap Sources.configFiles).map Prod.fst ++
        (placed.flatMap Placed.texts).map Prod.fst ++ (assemble placed p config).styles.keys := by
  have hcomponents : (assemble placed p config).components.entries = [] := rfl
  rw [registered, hcomponents, List.flatMap_nil, List.append_nil, List.map_append, List.map_append,
    Sources.paths_pages, Sources.paths_styles, h.pageTexts_pages, Dict.keys]

/-- A text of some page has a path in the directory of that page. -/
theorem path_of_mem_texts {path : String}
    (hm : path ∈ (placed.flatMap Placed.texts).map Prod.fst) :
    ∃ e ∈ placed, ∃ file ∈ pageFileNames, file ≠ "index.scss" ∧ path = pagePath e.name file := by
  rw [List.map_flatMap] at hm
  obtain ⟨e, he, hm⟩ := List.mem_flatMap.1 hm
  exact ⟨e, he, Placed.path_of_mem_texts hm⟩

/-- **No file takes the place of another.** -/
theorem nodup_registered (h : Placing r p pages placed) (config : Project.Config) :
    ((assemble placed p config).registered.map Prod.fst).Nodup := by
  have hconfigs := Sources.paths_configs (assemble placed p config).configs.entries
  have htop : ∀ e ∈ placed, ∀ file ∈ pageFileNames, pagePath e.name file ∉ topPaths :=
    fun e he file hf => pagePath_not_mem_topPaths (h.isSegment he) hf
  rw [h.paths_registered, List.nodup_append, List.nodup_append]
  refine ⟨⟨(Dict.nodup_keys _).sublist hconfigs, h.nodup_texts, ?_⟩, Dict.nodup_keys _, ?_⟩
  · rintro a ha _ hb rfl
    obtain ⟨e, he, file, hf, -, rfl⟩ := path_of_mem_texts hb
    exact htop e he file hf (path_of_mem_configs (hconfigs.subset ha)).1
  · rintro a ha _ hb rfl
    rcases List.mem_append.1 ha with ha | ha
    · obtain ⟨hat, hne⟩ := path_of_mem_configs (hconfigs.subset ha)
      rcases h.path_of_mem_styles hb with ⟨e, he, rfl⟩ | rfl
      · exact htop e he _ (by decide) hat
      · exact hne rfl
    · obtain ⟨e, he, file, hf, hne, rfl⟩ := path_of_mem_texts ha
      rcases h.path_of_mem_styles hb with ⟨e', he', heq⟩ | heq
      · exact hne (pagePath_inj (h.isSegment he) (h.isSegment he') hf (by decide) heq).2
      · exact htop e he file hf (heq ▸ appStylesPath_mem_topPaths)

/-- **Files stand at the top or beside a page.** -/
theorem isFilePath (h : Placing r p pages placed) {path : String}
    (hm : path ∈ (assemble placed p config).registered.map Prod.fst) : IsFilePath path := by
  have hconfigs := Sources.paths_configs (assemble placed p config).configs.entries
  rw [h.paths_registered, List.mem_append, List.mem_append] at hm
  rcases hm with (hm | hm) | hm
  · exact .top (path_of_mem_configs (hconfigs.subset hm)).1
  · obtain ⟨e, he, file, hf, -, rfl⟩ := path_of_mem_texts hm
    exact .page (h.isSegment he) hf
  · rcases h.path_of_mem_styles hm with ⟨e, he, rfl⟩ | rfl
    · exact .page (h.isSegment he) (by decide)
    · exact .top appStylesPath_mem_topPaths

/-- **The files can be written** below one directory. -/
theorem writable (h : Placing r p pages placed) (config : Project.Config) :
    Writable ((assemble placed p config).toFileSet.contents.map Prod.fst) := by
  have hpaths := Sources.paths_toFileSet (h.nodup_registered config)
  have hpath : ∀ path ∈ (assemble placed p config).toFileSet.contents.map Prod.fst,
      IsFilePath path := fun path hm => h.isFilePath (hpaths.subset hm)
  exact ⟨FileSet.nodup_paths _, fun path hm => (hpath path hm).isSafe,
    fun a ha b hb => (hpath a ha).ne_below (hpath b hb)⟩

end Placing

/-- **Nothing is lost and nothing mixed up.** A generated project has a file for each
configuration file with content, for the code of each page beside the configuration of a
page with a title, and for each style sheet; each has its own content, and they come
category by category. The style sheets are those of the pages that have one and the
application's. All can be written below one directory, whatever the pages are called. -/
theorem generateProject_files {r : Registry} {p : Platform} {pages : List Page}
    {config : Project.Config} {code : Sources} (h : generateProject r pages p config = .ok code) :
    ∃ placed : List Placed,
      placed.map Placed.page = pages ∧
      (∀ e ∈ placed, generatePage r e.page p e.name = .ok e.output) ∧
      code.pages.entries = placed.map (fun e => (e.route, e.source)) ∧
      code.styles.entries = placed.filterMap Placed.styles? ++
        (if (globalSheet config p).isEmpty then []
        else [(Project.appStylesPath, (globalSheet config p).render)]) ∧
      code.toFileSet.contents =
        code.configs.entries.filter (fun e => !e.2.isEmpty && !isAppPath e.1) ++
        (code.configs.entries.filter (fun e => !e.2.isEmpty && isAppPath e.1) ++
          code.styles.entries.filter fun e => isAppPath e.1) ++
        placed.flatMap Placed.texts ++
        code.styles.entries.filter (fun e => !isAppPath e.1) ∧
      Writable (code.toFileSet.contents.map Prod.fst) := by
  obtain ⟨placed, hplacing, rfl⟩ := generateProject_eq_ok_iff.1 h
  refine ⟨placed, hplacing.map_page, hplacing.generated, hplacing.entries_pages,
    hplacing.entries_styles config, ?_, hplacing.writable config⟩
  have hcomponents : (assemble placed p config).components.entries = [] := rfl
  rw [Sources.contents_toFileSet (hplacing.nodup_registered config), hplacing.pageTexts_pages,
    hcomponents, List.map_nil, List.append_nil]

/-- The hypothesis of `generateProject_files` is satisfiable: the name `../home` leads nowhere
else. -/
theorem homePages_files :
    ∃ code, generateProject .standard homePages .h5 (.new "site" .h5) = .ok code ∧
      (∀ path ∈ code.toFileSet.contents.map Prod.fst, IsSafe path) ∧
      "pages/home-2/index.tsx" ∈ code.toFileSet.contents.map Prod.fst := by
  obtain ⟨code, hcode⟩ := exists_homePages
  obtain ⟨placed, -, -, hpages, -, hcontents, hwritable⟩ := generateProject_files hcode
  have hkey : "pages/home-2/index" ∈ code.pages.keys := by
    rw [keys_homePages hcode]
    exact .tail _ (.head _)
  rw [Dict.keys, hpages, List.map_map] at hkey
  obtain ⟨e, he, (hroute : e.route = "pages/home-2/index")⟩ := List.mem_map.1 hkey
  have hfile : (e.route ++ ".tsx", e.output.code) ∈ code.toFileSet.contents := by
    rw [hcontents]
    exact List.mem_append_left _ (List.mem_append_right _ (List.mem_flatMap.2 ⟨e, he, .head _⟩))
  refine ⟨code, hcode, hwritable.safe, List.mem_map.2 ⟨_, hfile, ?_⟩⟩
  rw [hroute]
  simp

end Generation
end Pagewright
