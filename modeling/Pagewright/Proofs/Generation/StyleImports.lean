/-
# Style sheets and the imports of them

A style sheet is a file of its own, and the code beside it has to import it:

| style sheet | file | imported by |
| --- | --- | --- |
| of a page | `index.scss` beside the page | the page, if its sheet has a rule |
| of the application | `app.scss` | the root component, if its sheet has a rule |

Whether there is a file is decided otherwise, a page has one if the text of its sheet is not
empty. The two go together because a rule always has a text (`Sheet.render_eq_empty_iff`), and
because a page imports nothing else under the path of its sheet as long as no rule of the
registry has this path (`effect_mem_pageOf_iff`). So every style sheet that is imported is there,
and every one that is there is imported (`generateProject_importsStyles`).
-/

import Pagewright.Proofs.Generation.Files
import Pagewright.Proofs.Generation.Statements
import Pagewright.Proofs.Source.Fragments

namespace Pagewright

open Source (Import File importLines)

/-! ## Sheets without text -/

namespace Text

/-- Texts make an empty text together only if there are none, or an empty one. -/
theorem join_eq_empty_iff {sep : String} {l : List String} (h : ∀ s ∈ l, s ≠ "") :
    join sep l = "" ↔ l = [] := by
  cases l with
  | nil => exact iff_of_true rfl rfl
  | cons s l =>
    have hs := h s (.head _)
    refine iff_of_false (fun hjoin => hs ?_) (List.cons_ne_nil s l)
    cases l with
    | nil => exact hjoin
    | cons t l => exact (String.append_eq_empty_iff.1 (String.append_eq_empty_iff.1 hjoin).1).1

end Text

namespace Style.Sheet

/-- A rule has a text. -/
theorem ruleText_ne_empty (rule : String × Dict String Json) : ruleText rule ≠ "" := by
  intro h
  have hblank := (String.append_eq_empty_iff.1 (String.append_eq_empty_iff.1 h).1).2
  exact absurd hblank (by decide)

/-- **A sheet has no text** exactly if it has no rule. -/
theorem render_eq_empty_iff {s : Sheet} : s.render = "" ↔ s.isEmpty := by
  have htexts : ∀ text ∈ s.rules.map ruleText, text ≠ "" :=
    List.forall_mem_map.2 fun rule _ => ruleText_ne_empty rule
  rw [render, Text.join_eq_empty_iff htexts, List.map_eq_nil_iff, isEmpty, List.isEmpty_iff]

end Style.Sheet

namespace Generation

open Project (Sources appStylesPath)

variable {r : Registry} {p : Platform} {pages : List Page} {config : Project.Config}
  {placed : List Placed} {code : Sources} {name : String} {root : Component}

/-! ## Imports of style sheets -/

/-- **A page has no style sheet text** exactly if its style sheet has no rule. -/
theorem styles_pageOf_eq_empty_iff :
    (pageOf r p name root).styles = "" ↔ (Style.Sheet.ofTree p root).isEmpty :=
  Style.Sheet.render_eq_empty_iff

/-- **A page imports its style sheet** for its effect exactly if the sheet has a text, in a
registry of which no rule has the path of the sheet. -/
theorem effect_mem_pageOf_iff
    (hr : ∀ type rule, r.get? type p = some rule → rule.importPath ≠ pageStylesPath) :
    Import.effect pageStylesPath ∈ Import.ofImports (pageOf r p name root).context.imports ↔
      (pageOf r p name root).styles ≠ "" := by
  have hnode : ∀ c ∈ root.descendants, Lowering.module? r p c ≠ some pageStylesPath := by
    intro c _ hmodule
    obtain ⟨rule, hrule, hpath⟩ := Option.bind_eq_some_iff.1 hmodule
    split at hpath
    · cases hpath
    · exact hr c.type rule hrule (Option.some.inj hpath)
  have hnone : ∀ tag,
      ¬ (pageOf r p name root).context.imports.hasName pageStylesPath tag := by
    intro tag hn
    obtain ⟨c, -, rule, hrule, -, hpath, -⟩ := hasName_pageOf.1 hn
    exact hr c.type rule hrule hpath
  rw [Imports.effect_mem_ofImports_iff, mem_keys_pageOf, ne_eq, styles_pageOf_eq_empty_iff,
    Bool.not_eq_true]
  constructor
  · rintro ⟨⟨c, hc, hmodule⟩ | ⟨hrules, -⟩, -⟩
    · exact absurd hmodule (hnode c hc)
    · exact hrules
  · intro hrules
    exact ⟨.inr ⟨hrules, rfl⟩, hnone⟩

/-- What a page's file has behind its import statements: a blank line, unless there are none, and
the component. -/
def pageBody (statements : List Import) (name : String) (root : Markup) : String :=
  (if statements.isEmpty then "" else "\n") ++
    Source.textOfAll default 0 (Source.functionComponent (Naming.componentName name) root)

/-- What the root component's file has behind its import statements. -/
def appBody : String :=
  "\n" ++ Source.textOfAll default 0 (File.separated [
    Source.code
      "function App(\x7b children \x7d: PropsWithChildren) \x7b\n  return children;\n\x7d",
    Source.code "export default App;"])

/-- The import statements of the root component's file. -/
def appStatements (globalStyles : Bool) : List Import :=
  .names "react" ["PropsWithChildren"] ::
    if globalStyles then [Import.effect ("./" ++ appStylesPath)] else []

/-- **The root component** begins with its import statements, and what follows is the same for
every project. -/
theorem appEntry_eq (globalStyles : Bool) :
    Project.appEntry globalStyles = importLines (appStatements globalStyles) ++ appBody := by
  rw [Project.appEntry, File.render_eq, String.append_assoc]
  rfl

/-- The root component imports the style sheet exactly if there is a global one. -/
theorem effect_mem_appStatements_iff {globalStyles : Bool} :
    Import.effect ("./" ++ appStylesPath) ∈ appStatements globalStyles ↔ globalStyles := by
  have hreact : Import.effect ("./" ++ appStylesPath) ≠ .names "react" ["PropsWithChildren"] :=
    fun h => absurd (congrArg Import.named h) (List.cons_ne_nil _ _).symm
  cases globalStyles <;> simp [appStatements, hreact]

/-! ## Files of style sheets -/

namespace Placing

/-- **The style sheets of a project:** those of pages that have a text, and then the application's
if it has a rule. -/
theorem keys_styles (h : Placing r p pages placed) (config : Project.Config) :
    (assemble placed p config).styles.keys =
      ((placed.filter fun e => !e.output.styles.isEmpty).map fun e =>
        pagePath e.name "index.scss") ++
        if (globalSheet config p).isEmpty then [] else [appStylesPath] := by
  rw [Dict.keys, h.entries_styles, filterMap_styles?, List.map_append, List.map_map]
  split <;> rfl

/-- No file of a page has the path of the application's style sheet. -/
theorem pagePath_ne_appStylesPath (h : Placing r p pages placed) {e : Placed} (he : e ∈ placed)
    {file : String} (hf : file ∈ pageFileNames) : pagePath e.name file ≠ appStylesPath := fun heq =>
  pagePath_not_mem_topPaths (h.isSegment he) hf (heq ▸ appStylesPath_mem_topPaths)

/-- **A style sheet's path** is that of no other file, so there is a file exactly if the project
has the style sheet. -/
theorem mem_paths_iff (h : Placing r p pages placed) {path : String}
    (hpath : (∃ e ∈ placed, path = pagePath e.name "index.scss") ∨ path = appStylesPath) :
    path ∈ (assemble placed p config).toFileSet.contents.map Prod.fst ↔
      path ∈ (assemble placed p config).styles.keys := by
  have hconfigs := Sources.paths_configs (assemble placed p config).configs.entries
  rw [(Sources.paths_toFileSet (h.nodup_registered config)).mem_iff, h.paths_registered,
    List.mem_append, List.mem_append]
  constructor
  · rintro ((hm | hm) | hm)
    · obtain ⟨htop, hne⟩ := path_of_mem_configs (hconfigs.subset hm)
      rcases hpath with ⟨e, he, rfl⟩ | rfl
      · exact absurd htop (pagePath_not_mem_topPaths (h.isSegment he) (by decide))
      · exact absurd rfl hne
    · obtain ⟨e', he', file, hf, hne, heq⟩ := path_of_mem_texts hm
      rcases hpath with ⟨e, he, rfl⟩ | rfl
      · have hfile := (pagePath_inj (h.isSegment he) (h.isSegment he') (by decide) hf heq).2
        exact absurd hfile.symm hne
      · exact absurd heq.symm (h.pagePath_ne_appStylesPath he' hf)
    · exact hm
  · exact .inr

/-- **A page has a style sheet file** exactly if its style sheet has a text. -/
theorem mem_pagePaths_iff (h : Placing r p pages placed) (config : Project.Config) {e : Placed}
    (he : e ∈ placed) :
    directory e.name ++ "/index.scss" ∈
        (assemble placed p config).toFileSet.contents.map Prod.fst ↔
      e.output.styles ≠ "" := by
  rw [directory_append_styles, h.mem_paths_iff (.inl ⟨e, he, rfl⟩), h.keys_styles, List.mem_append,
    List.mem_map]
  constructor
  · rintro (⟨e', he', heq⟩ | happ)
    · obtain ⟨hmem, htext⟩ := List.mem_filter.1 he'
      have hname :=
        (pagePath_inj (h.isSegment hmem) (h.isSegment he) (by decide) (by decide) heq).1
      obtain rfl := List.inj_on_of_nodup_map h.nodup_names hmem he hname
      simpa using htext
    · split at happ
      · cases happ
      · exact absurd (List.mem_singleton.1 happ) (h.pagePath_ne_appStylesPath he (by decide))
  · intro htext
    exact .inl ⟨e, List.mem_filter.2 ⟨he, by simpa using htext⟩, rfl⟩

/-- **A page's style sheet has no text** exactly if no node of its tree has an attribute left. -/
theorem styles_eq_empty_iff (h : Placing r p pages placed) {e : Placed} (he : e ∈ placed)
    (hroot : e.page.components = some root) :
    e.output.styles = "" ↔ (Style.Sheet.ofTree p root).isEmpty := by
  obtain ⟨root', hroot', houtput⟩ := h.exists_pageOf he
  obtain rfl := Option.some.inj (hroot.symm.trans hroot')
  rw [houtput]
  exact styles_pageOf_eq_empty_iff

/-- **The application has a style sheet file** exactly if its style sheet has a rule. -/
theorem mem_appPaths_iff (h : Placing r p pages placed) (config : Project.Config) :
    appStylesPath ∈ (assemble placed p config).toFileSet.contents.map Prod.fst ↔
      (globalSheet config p).isEmpty = false := by
  rw [h.mem_paths_iff (.inr rfl), h.keys_styles, List.mem_append, List.mem_map]
  constructor
  · rintro (⟨e, he, heq⟩ | happ)
    · have hmem := List.mem_of_mem_filter he
      exact absurd heq (h.pagePath_ne_appStylesPath hmem (by decide))
    · split at happ
      · cases happ
      · next hrules => simpa using hrules
  · intro hrules
    rw [hrules, if_neg Bool.false_ne_true]
    exact .inr (.head _)

end Placing

/-- **What is imported is there, and what is there is imported.** In a project that is generated
with a registry of which no rule has the path `./index.scss`, the code of each page consists of
its import statements and its component. One of the statements imports the page's style sheet for
its effect exactly if the project has the file of it. The file of the root component has the
statements `appStatements` before its body; the last of them imports the style sheet of the
application, and is there exactly if the project has the file of it. Each style sheet of the project
has a file and is the application's, which the root component then imports, or that of a page that
imports it. -/
theorem generateProject_importsStyles
    (hr : ∀ type rule, r.get? type p = some rule → rule.importPath ≠ "./index.scss")
    (h : generateProject r pages p config = .ok code) :
    let paths := code.toFileSet.contents.map Prod.fst
    (∀ path source, code.pages.get? path = some source →
      ∃ name, path = "pages/" ++ name ++ "/index" ∧
        (∃ root, source.code = importLines (Import.ofImports source.imports) ++
          pageBody (Import.ofImports source.imports) name root) ∧
        (Import.effect "./index.scss" ∈ Import.ofImports source.imports ↔
          "pages/" ++ name ++ "/index.scss" ∈ paths)) ∧
    (("app.tsx", importLines (appStatements (decide ("app.scss" ∈ paths))) ++ appBody) ∈
        code.toFileSet.contents ∧
      (Import.effect "./app.scss" ∈ appStatements (decide ("app.scss" ∈ paths)) ↔
        "app.scss" ∈ paths)) ∧
    ∀ path ∈ code.styles.keys, path ∈ paths ∧
      (path = "app.scss" ∨
        ∃ name source, path = "pages/" ++ name ++ "/index.scss" ∧
          code.pages.get? ("pages/" ++ name ++ "/index") = some source ∧
          Import.effect "./index.scss" ∈ Import.ofImports source.imports) := by
  obtain ⟨placed, hplacing, rfl⟩ := generateProject_eq_ok_iff.1 h
  intro paths
  have hpage : ∀ e ∈ placed,
      (∃ root, e.source.code = importLines (Import.ofImports e.source.imports) ++
        pageBody (Import.ofImports e.source.imports) e.name root) ∧
        (Import.effect pageStylesPath ∈ Import.ofImports e.source.imports ↔
          "pages/" ++ e.name ++ "/index.scss" ∈ paths) := by
    intro e he
    obtain ⟨root, -, houtput⟩ := hplacing.exists_pageOf he
    -- the page decides by its rules, the project by the text of the sheet
    have hfile := hplacing.mem_pagePaths_iff config he
    rw [Placed.source]
    rw [houtput] at hfile ⊢
    exact ⟨⟨_, (Source.pageFile_render_eq ..).trans (String.append_assoc ..)⟩,
      (effect_mem_pageOf_iff hr).trans hfile.symm⟩
  -- the root component decides by the rules of the sheet, the project by its file
  have happ : decide ("app.scss" ∈ paths) = !(globalSheet config p).isEmpty := by
    rw [Bool.eq_iff_iff, decide_eq_true_iff, Bool.not_eq_true']
    exact hplacing.mem_appPaths_iff config
  refine ⟨fun path source hsource => ?_, ⟨?_, ?_⟩, fun path hpath => ?_⟩
  · rw [Dict.get?_eq_some_iff, hplacing.entries_pages] at hsource
    obtain ⟨e, he, heq⟩ := List.mem_map.1 hsource
    obtain ⟨rfl, rfl⟩ := Prod.mk.inj heq
    exact ⟨e.name, rfl, hpage e he⟩
  · rw [happ, ← appEntry_eq]
    refine Sources.config_mem_contents (hplacing.nodup_registered config) ?_ ?_
    · rw [entries_configs]
      exact .tail _ (.head _)
    · rw [appEntry_eq]
      exact fun h => absurd (String.append_eq_empty_iff.1 (String.append_eq_empty_iff.1 h).2).1
        (by decide)
  · exact effect_mem_appStatements_iff.trans decide_eq_true_iff
  · have hstyles := hplacing.path_of_mem_styles hpath
    have hmem : path ∈ paths := (hplacing.mem_paths_iff hstyles).2 hpath
    refine ⟨hmem, ?_⟩
    rcases hstyles with ⟨e, he, rfl⟩ | rfl
    · rw [← directory_append_styles] at hmem ⊢
      exact .inr ⟨e.name, e.source, rfl, hplacing.get?_route config he, (hpage e he).2.2 hmem⟩
    · exact .inl rfl

/-- Two pages for a mini program: the first has an attribute that stays, the second one that is
dropped. -/
def shadowPages : List Page :=
  [⟨"Home", none, some ((Component.leaf "root" "Container").withStyle "width" (.string "10px"))⟩,
    ⟨"About", none, some ((Component.leaf "root" "Container").withStyle "boxShadow"
      (.string "none"))⟩]

/-- The settings of a shop whose pages are red. -/
def redShop : Project.Config :=
  { Project.Config.new "shop" .weapp with
    globalStyles := .ofList [("page", .ofList [("color", .string "red")])] }

/-- No standard rule has the path of a page's style sheet. -/
theorem importPath_ne_pageStylesPath {type : String} {rule : Mapping.Rule}
    (h : Registry.standard.get? type p = some rule) : rule.importPath ≠ pageStylesPath := by
  have hall : ∀ e ∈ Registry.standard.builtins.entries, ∀ f ∈ e.2.rules.entries,
      f.2.importPath ≠ pageStylesPath := by
    decide
  exact Registry.of_standard hall h

/-- The hypotheses of `generateProject_importsStyles` are satisfiable: of two pages the first
has a style sheet and imports it, and the second has none and imports none; the application has one,
and the root component imports it. -/
theorem shadowPages_importsStyles :
    ∃ code home about,
      generateProject .standard shadowPages .weapp redShop = .ok code ∧
      code.pages.get? "pages/home/index" = some home ∧
      "pages/home/index.scss" ∈ code.toFileSet.contents.map Prod.fst ∧
      Import.effect "./index.scss" ∈ Import.ofImports home.imports ∧
      code.pages.get? "pages/about/index" = some about ∧
      "pages/about/index.scss" ∉ code.toFileSet.contents.map Prod.fst ∧
      Import.effect "./index.scss" ∉ Import.ofImports about.imports ∧
      "app.scss" ∈ code.toFileSet.contents.map Prod.fst ∧
      ("app.tsx",
        "import \x7b PropsWithChildren \x7d from \"react\";\nimport \"./app.scss\";\n\n" ++
        "function App(\x7b children \x7d: PropsWithChildren) \x7b\n  return children;\n\x7d\n\n" ++
        "export default App;\n") ∈ code.toFileSet.contents := by
  have hfaults : ∀ page ∈ shadowPages, fault? .standard .weapp page = none := by decide
  obtain ⟨code, hcode⟩ :=
    (exists_generateProject_iff .standard shadowPages .weapp redShop).2 hfaults
  obtain ⟨hpages, ⟨happ, -⟩, -⟩ :=
    generateProject_importsStyles (fun _ _ => importPath_ne_pageStylesPath) hcode
  obtain ⟨placed, hplacing, rfl⟩ := generateProject_eq_ok_iff.1 hcode
  -- the two pages in their directories
  have hnames : (placePages [] shadowPages).map Prod.fst = ["home", "about"] := by decide
  obtain ⟨home, rest, rfl, hhome, hrest⟩ :=
    List.map_eq_cons_iff.1 (hplacing.map_name.trans hnames)
  obtain ⟨about, rest, rfl, habout, hnil⟩ := List.map_eq_cons_iff.1 hrest
  obtain rfl := List.map_eq_nil_iff.1 hnil
  obtain ⟨hhomePage, haboutPage⟩ := List.cons.inj hplacing.map_page
  have hhomeText : home.output.styles ≠ "" :=
    mt (hplacing.styles_eq_empty_iff (.head _) (congrArg Page.components hhomePage)).1 (by decide)
  have haboutText : about.output.styles = "" :=
    (hplacing.styles_eq_empty_iff (.tail _ (.head _))
      (congrArg Page.components (List.cons.inj haboutPage).1)).2 (by decide)
  have hget := fun e (he : e ∈ [home, about]) => hplacing.get?_route redShop he
  have hfile := fun e (he : e ∈ [home, about]) =>
    hplacing.mem_pagePaths_iff redShop he
  have himport : ∀ e ∈ [home, about],
      (Import.effect "./index.scss" ∈ Import.ofImports e.source.imports ↔
        e.output.styles ≠ "") := by
    intro e he
    obtain ⟨name, hpath, -, hiff⟩ := hpages _ _ (hget e he)
    obtain rfl : e.name = name := route_injective hpath
    exact hiff.trans (hfile e he)
  have hhomePath : directory home.name ++ "/index.scss" = "pages/home/index.scss" :=
    congrArg (directory · ++ "/index.scss") hhome
  have haboutPath : directory about.name ++ "/index.scss" = "pages/about/index.scss" :=
    congrArg (directory · ++ "/index.scss") habout
  have hhomeRoute : home.route = "pages/home/index" := congrArg route hhome
  have haboutRoute : about.route = "pages/about/index" := congrArg route habout
  have happPath : "app.scss" ∈ (assemble [home, about] .weapp redShop).toFileSet.contents.map
      Prod.fst := (hplacing.mem_appPaths_iff redShop).2 (by decide)
  rw [decide_eq_true happPath] at happ
  refine ⟨_, home.source, about.source, hcode, ?_, ?_, ?_, ?_, ?_, ?_, happPath, ?_⟩
  · exact hhomeRoute ▸ hget home (.head _)
  · exact hhomePath ▸ (hfile home (.head _)).2 hhomeText
  · exact (himport home (.head _)).2 hhomeText
  · exact haboutRoute ▸ hget about (.tail _ (.head _))
  · exact haboutPath ▸ fun h => (hfile about (.tail _ (.head _))).1 h haboutText
  · exact fun h => (himport about (.tail _ (.head _))).1 h haboutText
  · exact Eq.subst (motive := fun text => ("app.tsx", text) ∈
      (assemble [home, about] .weapp redShop).toFileSet.contents) (by decide +kernel) happ

end Generation
end Pagewright
