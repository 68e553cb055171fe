/-
# The findings of a project

What generation has to say about a project is which style attributes were dropped, and nothing else:

| findings | of | located at |
| --- | --- | --- |
| first | each page, and on it each node in pre-order | the route of the page |
| then | each style map of the application, by selector | nothing |

A node is judged by the names that its attributes have once the rule for it has renamed them, each
name once (`Lowering.keys_renameStyles`); the findings of one page are already those of its nodes
(`diagnostics_pageOf`). So the findings are listed by name and place
(`generateProject_findings`).
-/

import Pagewright.Proofs.Generation.Reports
import Pagewright.Proofs.Generation.Routes

namespace Pagewright

/-- The nodes of a page in pre-order; none without a tree. -/
def Page.nodes (page : Page) : List Component :=
  match page.components with
  | some root => root.descendants
  | none => []

namespace Lowering

/-- The names of attributes under a rule, each where it comes first. -/
def namesUnder (rule : Mapping.Rule) (p : Platform) (keys : List String) : List String :=
  (keys.map (nameUnder rule p)).eraseDups

/-- The attributes of a node that are dropped when it is lowered, under the names that its rule
gives them. -/
def droppedNames (r : Registry) (p : Platform) (c : Component) : List String :=
  match r.get? c.type p with
  | some rule => (namesUnder rule p c.style.keys).filter (· ∈ Style.unsupported p)
  | none => []

/-- **The attributes after renaming,** in order. -/
theorem keys_renameStyles (styles : Dict String Json) (rule : Mapping.Rule) (p : Platform) :
    (renameStyles styles rule p).keys = namesUnder rule p styles.keys := by
  unfold renameStyles namesUnder nameUnder
  cases rule.styles with
  | none => simp
  | some mappings =>
    have hkeys : (styles.entries.map (renameStyle mappings p)).map Prod.fst =
        styles.keys.map (styleName mappings p) := by
      rw [Dict.keys, List.map_map, List.map_map]
      exact List.map_congr_left fun e _ => fst_renameStyle mappings e
    dsimp only
    rw [Dict.keys_ofList, hkeys]

/-- **A node is judged** by its attributes under the names that its rule gives them. -/
theorem droppedIn_loweredStyles (r : Registry) (p : Platform) (c : Component) :
    Style.droppedIn p (loweredStyles r p c) = (droppedNames r p c).map (Style.dropped p) := by
  unfold loweredStyles droppedNames
  cases r.get? c.type p with
  | none => rfl
  | some rule =>
    dsimp only
    rw [Style.droppedIn_eq, keys_renameStyles]

end Lowering

namespace Generation

open Lowering (droppedIn_loweredStyles droppedNames)

variable {r : Registry} {p : Platform} {pages : List Page} {config : Project.Config}
  {placed : List Placed} {code : Project.Sources}

/-- A warning of a page is located at its route and says the same. -/
theorem locatedIn_dropped (route key : String) :
    locatedIn route (Style.dropped p key) = (Style.dropped p key).locatedAt route := rfl

/-- **The findings of a page in its directory,** node by node. -/
theorem Placing.located_diagnostics (h : Placing r p pages placed) {e : Placed} (he : e ∈ placed) :
    e.output.context.diagnostics.map (locatedIn e.route) =
      e.page.nodes.flatMap fun c =>
        (droppedNames r p c).map fun key => (Style.dropped p key).locatedAt e.route := by
  obtain ⟨root, hroot, houtput⟩ := h.exists_pageOf he
  rw [houtput, diagnostics_pageOf, Page.nodes, hroot, List.map_flatMap]
  refine List.flatMap_congr fun c _ => ?_
  rw [droppedIn_loweredStyles, List.map_map]
  exact List.map_congr_left fun key _ => locatedIn_dropped e.route key

/-- **The findings of a project.** They are exactly these, in this order: for each page, for each
node of its tree in pre-order, for each attribute of the node that the platform does not support,
under the name that the rule for the node gives it, one warning of styles that names the attribute
and the platform, located at the route of the page; then, for each style map of the application and
each of its attributes that the platform does not support, one such warning without a location. -/
theorem generateProject_findings (h : generateProject r pages p config = .ok code) :
    code.pages.keys.length = pages.length ∧
    code.diagnostics =
      ((pages.zip code.pages.keys).flatMap fun (page, route) =>
        page.nodes.flatMap fun c =>
          (droppedNames r p c).map fun key =>
            ⟨.warning, "style", "style property '" ++ key ++ "' is not supported on " ++
              p.displayName ++ " and was dropped", some route⟩) ++
      config.globalStyles.entries.flatMap fun (_, styles) =>
        (styles.keys.filter (· ∈ Style.unsupported p)).map fun key =>
          ⟨.warning, "style", "style property '" ++ key ++ "' is not supported on " ++
            p.displayName ++ " and was dropped", none⟩ := by
  obtain ⟨placed, hplacing, rfl⟩ := generateProject_eq_ok_iff.1 h
  have hpages := hplacing.map_page
  constructor
  · rw [hplacing.keys_pages, ← hpages, List.length_map, List.length_map]
  · have hzip : pages.zip (assemble placed p config).pages.keys =
        placed.map fun e => (e.page, e.route) := by
      rw [hplacing.keys_pages, ← hpages, List.zip_map']
    have hlocated : (placed.flatMap fun e => e.output.context.diagnostics.map (locatedIn e.route)) =
        placed.flatMap fun e => e.page.nodes.flatMap fun c =>
          (droppedNames r p c).map fun key => (Style.dropped p key).locatedAt e.route :=
      List.flatMap_congr fun e he => hplacing.located_diagnostics he
    have hglobal : globalDropped config p = config.globalStyles.entries.flatMap fun e =>
        (e.2.keys.filter (· ∈ Style.unsupported p)).map (Style.dropped p) :=
      List.flatMap_congr fun e _ => Style.droppedIn_eq p e.2
    rw [hzip, List.flatMap_map]
    exact congrArg₂ (· ++ ·) hlocated hglobal

/-- A site of two pages with shadows, and a filter for all of it. -/
def shadowSite : List Page :=
  [⟨"Home", none, some shadowBox⟩, ⟨"home", none, some shadowCard⟩]

/-- The settings of the site. -/
def shadowConfig : Project.Config :=
  { Project.Config.new "site" .weapp with
    globalStyles := .ofList
      [("page", .ofList [("color", .string "red"), ("filter", .string "none")])] }

/-- The hypothesis of `generateProject_findings` is satisfiable: of three shadows two are renamed
before they are judged, and the filter is reported behind the pages. -/
theorem shadowSite_findings :
    ∃ code, generateProject shadowRegistry shadowSite .weapp shadowConfig = .ok code ∧
      code.diagnostics =
        [⟨.warning, "style",
            "style property 'boxShadow' is not supported on WeChat mini program and was dropped",
            some "pages/home/index"⟩,
          ⟨.warning, "style",
            "style property 'filter' is not supported on WeChat mini program and was dropped",
            none⟩] := by
  have hfaults : ∀ page ∈ shadowSite, fault? shadowRegistry .weapp page = none := by decide
  obtain ⟨code, hcode⟩ := (exists_generateProject_iff ..).2 hfaults
  refine ⟨code, hcode, ?_⟩
  obtain ⟨placed, hplacing, hassembled⟩ := generateProject_eq_ok_iff.1 hcode
  have hkeys : code.pages.keys = ["pages/home/index", "pages/home-2/index"] := by
    have hnames : (placePages [] shadowSite).map Prod.fst = ["home", "home-2"] := by decide +kernel
    rw [← hassembled, hplacing.keys_pages, map_route, hplacing.map_name, hnames]
    rfl
  rw [(generateProject_findings hcode).2, hkeys]
  decide

end Generation
end Pagewright
