/-
# The routes of a project

A project that is generated has its pages in their directories, each with what is
generated for it there (`Placing`). The directories are distinct, so no page takes the
place of another under its route: the project has one page for each that was given, in
the same order, and the application's configuration lists their routes
(`generateProject_routes`). A route has no character that would be escaped in the list.
-/

import Pagewright.Proofs.Generation.Directories
import Pagewright.Proofs.Generation.Outcome
import Pagewright.Proofs.Project.AppConfig

namespace Pagewright
namespace Generation

open Naming (directoryName isDirectoryChar)
open Project (listText windowText)

/-! ## Pages in their directories -/

/-- Pages in the directories they get one after the other, each with what is generated for it
under the name of its directory. -/
structure Placing (r : Registry) (p : Platform) (pages : List Page) (placed : List Placed) :
    Prop where
  places : placed.map (fun e => (e.name, e.page)) = placePages [] pages
  generated : ∀ e ∈ placed, generatePage r e.page p e.name = .ok e.output

variable {r : Registry} {p : Platform} {pages : List Page} {config : Project.Config}
  {placed : List Placed} {code : Project.Sources}

/-- A generated page keeps its name and its page. -/
theorem eq_of_generatePlaced (e : String × Page) (b : Placed) (h : generatePlaced r p e = .ok b) :
    (b.name, b.page) = e := by
  rw [generatePlaced] at h
  cases hpage : generatePage r e.2 p e.1 with
  | error f => simp [hpage, Except.map] at h
  | ok output =>
    rw [hpage] at h
    obtain rfl := Except.ok.inj h
    rfl

/-- A page is generated in its directory exactly if it is generated under the name of it. -/
theorem generatePlaced_self_iff {b : Placed} :
    generatePlaced r p (b.name, b.page) = .ok b ↔
      generatePage r b.page p b.name = .ok b.output := by
  obtain ⟨name, page, output⟩ := b
  rw [generatePlaced]
  cases generatePage r page p name <;> simp [Except.map]

/-- **A project is generated** exactly if its pages are, in their directories; it is what they
make up. -/
theorem generateProject_eq_ok_iff :
    generateProject r pages p config = .ok code ↔
      ∃ placed, Placing r p pages placed ∧ assemble placed p config = code := by
  have hplacing : ∀ placed, (placePages [] pages).mapM (generatePlaced r p) = .ok placed ↔
      Placing r p pages placed := by
    intro placed
    rw [mapM_eq_ok_iff_map eq_of_generatePlaced]
    simp only [generatePlaced_self_iff]
    exact ⟨fun h => ⟨h.1, h.2⟩, fun h => ⟨h.places, h.generated⟩⟩
  simp only [← hplacing]
  rw [generateProject]
  cases (placePages [] pages).mapM (generatePlaced r p) <;> simp [Except.map]

namespace Placing

/-- The pages that are placed are the pages, in order. -/
theorem map_page (h : Placing r p pages placed) : placed.map Placed.page = pages := by
  have hpages := congrArg (List.map Prod.snd) h.places
  rwa [List.map_map, map_snd_placePages] at hpages

/-- The names of the directories are the ones that the pages get in order. -/
theorem map_name (h : Placing r p pages placed) :
    placed.map Placed.name = (placePages [] pages).map Prod.fst := by
  rw [← h.places, List.map_map]
  rfl

/-- **A directory is assigned** to each page, given those of the pages before it. -/
theorem assigned (h : Placing r p pages placed) {before after : List Placed} {e : Placed}
    (hsplit : placed = before ++ e :: after) :
    Assigned (before.map Placed.name) (directoryName e.page.name) e.name := by
  have hplaces := h.places.symm
  rw [hsplit, List.map_append, List.map_cons] at hplaces
  have hassigned := assigned_placePages hplaces
  rwa [List.nil_append, List.map_map] at hassigned

/-- The directory of a page is a segment of a path. -/
theorem isSegment (h : Placing r p pages placed) {e : Placed} (he : e ∈ placed) :
    IsSegment e.name := by
  have hmem : (e.name, e.page) ∈ placePages [] pages :=
    h.places ▸ List.mem_map_of_mem he
  exact isSegment_of_mem_placePages hmem

/-- Each page is what its tree makes. -/
theorem exists_pageOf (h : Placing r p pages placed) {e : Placed} (he : e ∈ placed) :
    ∃ root, e.page.components = some root ∧ e.output = pageOf r p e.name root := by
  obtain ⟨root, hroot, -, houtput⟩ := generatePage_eq_ok_iff.1 (h.generated e he)
  exact ⟨root, hroot, houtput⟩

/-- No two pages have the same directory. -/
theorem nodup_names (h : Placing r p pages placed) : (placed.map Placed.name).Nodup := by
  have hnodup : ([] ++ (placePages [] pages).map Prod.fst).Nodup :=
    nodup_placePages List.nodup_nil
  rwa [List.nil_append, ← h.map_name] at hnodup

end Placing

/-! ## Routes -/

/-- Pages with the same route have the same directory. -/
theorem route_injective : Function.Injective route := by
  intro a b h
  rwa [route, route, directory, directory, String.append_left_inj, String.append_right_inj] at h

/-- The routes are those of the directories. -/
theorem map_route (placed : List Placed) :
    placed.map Placed.route = (placed.map Placed.name).map route := by
  rw [List.map_map]
  rfl

/-- **No two pages have the same route.** -/
theorem Placing.nodup_routes (h : Placing r p pages placed) :
    (placed.map Placed.route).Nodup := by
  rw [map_route]
  exact h.nodup_names.map route_injective

/-- **No page is lost:** the project has the pages under their routes. -/
theorem Placing.entries_pages (h : Placing r p pages placed) :
    (assemble placed p config).pages.entries = placed.map fun e => (e.route, e.source) := by
  refine Dict.entries_ofList_of_nodup ?_
  rw [List.map_map]
  exact h.nodup_routes

/-- The pages of a project are kept under their routes, in order. -/
theorem Placing.keys_pages (h : Placing r p pages placed) :
    (assemble placed p config).pages.keys = placed.map Placed.route := by
  rw [Dict.keys, h.entries_pages, List.map_map]
  rfl

/-- The sources of a project are those of its pages, in order. -/
theorem Placing.values_pages (h : Placing r p pages placed) :
    (assemble placed p config).pages.values = placed.map Placed.source := by
  rw [Dict.values, h.entries_pages, List.map_map]
  rfl

/-- The source of a page is found under its route. -/
theorem Placing.get?_route (h : Placing r p pages placed) (config : Project.Config) {e : Placed}
    (he : e ∈ placed) : (assemble placed p config).pages.get? e.route = some e.source := by
  rw [Dict.get?_eq_some_iff, h.entries_pages]
  exact List.mem_map_of_mem he

/-- The configuration files stand under five paths. -/
theorem entries_configs (placed : List Placed) (p : Platform) (config : Project.Config) :
    (assemble placed p config).configs.entries = [
      (Project.appConfigPath, Project.appConfig config.name (placed.map Placed.route)),
      (Project.appEntryPath, Project.appEntry !(globalSheet config p).isEmpty),
      (Project.developerConfigPath, Project.developerConfig config p),
      (Project.packageManifestPath, Project.packageManifest config p
        (Project.Sources.collected (placed.map Placed.source))),
      (Project.compilerConfigPath, Project.compilerConfig)] := by
  have hpages : (placed.map fun e => (e.route, e.source)).map Prod.snd =
      placed.map Placed.source := by
    rw [List.map_map]
    rfl
  rw [← hpages]
  refine Dict.entries_ofList_of_nodup ?_
  simp only [List.map_cons, List.map_nil]
  decide

/-- **The list of routes** in the application's configuration. -/
theorem Placing.get?_appConfig (h : Placing r p pages placed) (config : Project.Config) :
    (assemble placed p config).configs.get? Project.appConfigPath =
      some (Project.appConfig config.name (assemble placed p config).pages.keys) := by
  rw [h.keys_pages, Dict.get?_eq_some_iff, entries_configs]
  exact .head _

/-- A character of a directory name is quoted as it is. -/
theorem escape_of_isDirectoryChar {c : Char} (h : isDirectoryChar c) : Json.escape c = [c] := by
  have hrange : 0x2d ≤ c.toNat ∧ c.toNat ≠ 0x5c := by
    rw [Naming.isDirectoryChar_iff, Naming.isAsciiLower_iff_toNat,
      Naming.isAsciiDigit_iff_toNat] at h
    rcases h with h | h | rfl | rfl
    · omega
    · omega
    · decide
    · decide
  have hne : ∀ d : Char, d.toNat < 0x2d ∨ d.toNat = 0x5c → c ≠ d := by
    rintro _ hd rfl
    omega
  rw [Json.escape, if_neg (hne _ (by decide)), if_neg (hne _ (by decide)),
    if_neg (hne _ (by decide)), if_neg (hne _ (by decide)), if_neg (hne _ (by decide)),
    if_neg (by omega), if_neg (by omega), if_neg (by omega)]

/-- **A route is plain text:** it stands in the list as it is, between quotes. -/
theorem quote_route {name : String} (h : IsSegment name) :
    Json.quote (route name) = "\"" ++ route name ++ "\"" := by
  refine Json.quote_of_plain fun c hc => ?_
  rw [route, directory, String.toList_append, String.toList_append, List.mem_append,
    List.mem_append] at hc
  have hends : ∀ c ∈ "pages/".toList ++ "/index".toList, Json.escape c = [c] := by
    simp [Json.escape]
  rcases hc with (hc | hc) | hc
  · exact hends c (List.mem_append_left _ hc)
  · exact escape_of_isDirectoryChar (h.chars c hc)
  · exact hends c (List.mem_append_right _ hc)

/-- **A project has the pages it was given**, each under a route of its own. Page for page, in
order, it has what is generated for the page under its route, `pages/` and the name of its
directory and `/index`; the directory is `Assigned` to the page as the pages before it
leave it. The application's configuration lists these routes in this order. -/
theorem generateProject_routes (h : generateProject r pages p config = .ok code) :
    ∃ placed : List Placed,
      placed.map Placed.page = pages ∧
      (∀ e ∈ placed, generatePage r e.page p e.name = .ok e.output) ∧
      code.pages.entries = placed.map (fun e => (e.route, e.source)) ∧
      (∀ e ∈ placed, e.route = "pages/" ++ e.name ++ "/index") ∧
      (placed.map Placed.route).Nodup ∧
      (∀ before e after, placed = before ++ e :: after →
        Assigned (before.map Placed.name) (directoryName e.page.name) e.name) ∧
      code.configs.get? Project.appConfigPath =
        some ("export default defineAppConfig(\x7b\n" ++
          listText (fun r => "\"" ++ r ++ "\"") (placed.map Placed.route) ++
          windowText config.name ++ "\x7d);\n") := by
  obtain ⟨placed, hplacing, rfl⟩ := generateProject_eq_ok_iff.1 h
  refine ⟨placed, hplacing.map_page, hplacing.generated, hplacing.entries_pages, fun _ _ => rfl,
    hplacing.nodup_routes, fun _ _ _ => hplacing.assigned, ?_⟩
  have hplain : listText Json.quote (placed.map Placed.route) =
      listText (fun r => "\"" ++ r ++ "\"") (placed.map Placed.route) := by
    refine Project.listText_congr fun r hr => ?_
    obtain ⟨e, he, rfl⟩ := List.mem_map.1 hr
    exact quote_route (hplacing.isSegment he)
  have hconfig := hplacing.get?_appConfig config
  rwa [hplacing.keys_pages, Project.appConfig_eq, hplain] at hconfig

/-- Three pages with names that coincide: as they are, as what is left of them, and with the
number of a copy. -/
def homePages : List Page :=
  ["Home", "../home", "home-2"].map fun name => ⟨name, none, some (.leaf "root" "Container")⟩

/-- The site of `homePages` is generated. -/
theorem exists_homePages : ∃ code, generateProject .standard homePages .h5 (.new "site" .h5) =
    .ok code := by
  have hfaults : ∀ page ∈ homePages, fault? .standard .h5 page = none := by decide
  exact (exists_generateProject_iff .standard homePages .h5 (.new "site" .h5)).2 hfaults

/-- The pages of the site have three different routes. -/
theorem keys_homePages
    (h : generateProject .standard homePages .h5 (.new "site" .h5) = .ok code) :
    code.pages.keys = ["pages/home/index", "pages/home-2/index", "pages/home-2-2/index"] := by
  have hnames : (placePages [] homePages).map Prod.fst = ["home", "home-2", "home-2-2"] := by
    decide
  obtain ⟨placed, hplacing, rfl⟩ := generateProject_eq_ok_iff.1 h
  rw [hplacing.keys_pages, map_route, hplacing.map_name, hnames]
  rfl

/-- The hypothesis of `generateProject_routes` is satisfiable: the second page gets the name of
the third, which gets a number of its own. -/
theorem homePages_routes :
    ∃ code, generateProject .standard homePages .h5 (.new "site" .h5) = .ok code ∧
      code.configs.get? Project.appConfigPath =
        some ("export default defineAppConfig(\x7b\n  pages: [\n" ++
          "    \"pages/home/index\",\n    \"pages/home-2/index\",\n" ++
          "    \"pages/home-2-2/index\",\n  ],\n" ++ windowText "site" ++ "\x7d);\n") := by
  obtain ⟨code, hcode⟩ := exists_homePages
  obtain ⟨placed, -, -, hentries, -, -, -, hconfig⟩ := generateProject_routes hcode
  have hroutes : code.pages.keys = placed.map Placed.route := by
    rw [Dict.keys, hentries, List.map_map]
    rfl
  refine ⟨code, hcode, ?_⟩
  rw [hconfig, ← hroutes, keys_homePages hcode]
  simp [listText, Project.Config.new]

end Generation
end Pagewright
