/-
# Generating a project

Each page gets a directory of its own below `pages/`, named for the page. Where
names coincide, the later pages have `-2`, `-3` and so on behind theirs, the first
that no earlier page took. The first page that cannot be generated stops the
generation.
-/

import Pagewright.Generation.Page
import Pagewright.Project.Sources

namespace Pagewright
namespace Generation

open Project (Config PageSource Sources)

/-- The `n`th name that a directory may get, from `2`. -/
def numbered (name : String) (n : Nat) : String := name ++ "-" ++ toString n

/-- A directory name that is not taken. Of one candidate more than there are taken
names, one is free. -/
def freeName (taken : List String) (name : String) : String :=
  if taken.contains name then
    (((List.range (taken.length + 1)).map fun i => numbered name (i + 2)).find?
      fun candidate => !taken.contains candidate).getD name
  else name

/-- The pages with their directory names, given the names taken so far. -/
def placePages (taken : List String) : List Page → List (String × Page)
  | [] => []
  | page :: rest =>
    let name := freeName taken (Naming.directoryName page.name)
    (name, page) :: placePages (taken ++ [name]) rest

/-- The directory of a page. -/
def directory (name : String) : String := "pages/" ++ name

/-- The route of a page. -/
def route (name : String) : String := directory name ++ "/index"

/-- A finding of a page, located at the page's route. -/
def locatedIn (route : String) (d : Diagnostic) : Diagnostic :=
  d.locatedAt <|
    match d.location with
    | some inner => route ++ ": " ++ inner
    | none => route

/-- A page in its directory, with what was generated for it. -/
structure Placed where
  name : String
  page : Page
  output : PageOutput

namespace Placed

/-- The route of the page. -/
def route (e : Placed) : String := Generation.route e.name

/-- The page as a part of the project. -/
def source (e : Placed) : PageSource :=
  ⟨e.output.code, e.output.context.imports, e.output.context.dependencies,
    e.page.title.map Project.pageConfig⟩

/-- The style sheet of the page with its path, unless it is empty. -/
def styles? (e : Placed) : Option (String × String) :=
  if e.output.styles.isEmpty then none
  else some (directory e.name ++ "/index.scss", e.output.styles)

end Placed

/-- The style sheet of the whole application. -/
def globalSheet (config : Config) (p : Platform) : Style.Sheet :=
  .ofStyles p config.globalStyles.entries

/-- The findings of the application's style sheet. -/
def globalDropped (config : Config) (p : Platform) : List Diagnostic :=
  config.globalStyles.entries.flatMap fun e => Style.droppedIn p e.2

/-- The project that generated pages make up. -/
def assemble (placed : List Placed) (p : Platform) (config : Config) : Sources :=
  let sheet := globalSheet config p
  let pages := placed.map fun e => (e.route, e.source)
  { pages := .ofList pages
    components := ∅
    styles := .ofList (placed.filterMap Placed.styles? ++
      if sheet.isEmpty then [] else [(Project.appStylesPath, sheet.render)])
    configs := .ofList [
      (Project.appConfigPath, Project.appConfig config.name (placed.map Placed.route)),
      (Project.appEntryPath, Project.appEntry !sheet.isEmpty),
      (Project.developerConfigPath, Project.developerConfig config p),
      (Project.packageManifestPath,
        Project.packageManifest config p (Sources.collected (pages.map Prod.snd))),
      (Project.compilerConfigPath, Project.compilerConfig)]
    diagnostics :=
      (placed.flatMap fun e => e.output.context.diagnostics.map (locatedIn e.route)) ++
        globalDropped config p }

/-- Generates a page in its directory. -/
def generatePlaced (r : Registry) (p : Platform) (e : String × Page) : Except Failure Placed :=
  (generatePage r e.2 p e.1).map fun output => ⟨e.1, e.2, output⟩

/-- Generates a project. -/
def generateProject (r : Registry) (pages : List Page) (p : Platform) (config : Config) :
    Except Failure Sources :=
  ((placePages [] pages).mapM (generatePlaced r p)).map fun placed => assemble placed p config

end Generation
end Pagewright
