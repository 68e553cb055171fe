/-
# Generated projects

Everything that is generated for a project on a platform. Pages and shared
components are kept by route, a path without extension; style sheets and
configuration files by path.

| registered | path | category |
| --- | --- | --- |
| a configuration file that is not empty | its path | `app` if the path begins with `app.`, else `config` |
| a page | the route and `.tsx` | `page` |
| the configuration of a page | `index.config.ts` beside it | `page` |
| a component | the route and `.tsx` | `page` |
| a style sheet | its path | `app` if the path begins with `app.`, else `style` |
-/

import Pagewright.Diagnostic
import Pagewright.Generation.Context
import Pagewright.Project.Configuration
import Pagewright.Project.FileSet

namespace Pagewright
namespace Project

/-- A generated page. -/
structure PageSource where
  code : String
  imports : Imports
  dependencies : Dependencies
  config : Option String

/-- A generated project. -/
structure Sources where
  pages : Dict String PageSource
  components : Dict String String
  styles : Dict String String
  configs : Dict String String
  diagnostics : List Diagnostic

namespace Sources

/-- Whether a file belongs to the application as a whole. -/
def isAppPath (path : String) : Bool := "app.".toList.isPrefixOf path.toList

/-- Registers a configuration file. The developer tools' settings are edited by
hand, so they are written only once. -/
def addConfig (s : FileSet) (e : String × String) : FileSet :=
  if e.2.isEmpty then s
  else
    s.register e.1 ⟨e.2, if isAppPath e.1 then .app else .config,
      if e.1 = developerConfigPath then .ifMissing else .always⟩

/-- The directory of a route. -/
def directoryOf (route : String) : String :=
  match Text.splitLast? '/' route.toList with
  | some (dir, _) => String.ofList dir
  | none => ""

/-- The path of a route's source. -/
def sourcePath (route : String) : String := route ++ ".tsx"

/-- The path of the configuration of a page in a directory. -/
def pageConfigPath (dir : String) : String := dir ++ "/index.config.ts"

/-- Registers a page and its configuration. -/
def addPage (s : FileSet) (e : String × PageSource) : FileSet :=
  let s := s.add .page (sourcePath e.1) e.2.code
  match e.2.config with
  | some text => s.add .page (pageConfigPath (directoryOf e.1)) text
  | none => s

/-- Registers a style sheet. -/
def addStyle (s : FileSet) (e : String × String) : FileSet :=
  s.add (if isAppPath e.1 then .app else .style) e.1 e.2

/-- The files of a project. -/
def toFileSet (code : Sources) : FileSet :=
  let s := code.configs.entries.foldl addConfig ∅
  let s := code.pages.entries.foldl addPage s
  let s := code.components.entries.foldl (fun s e => s.add .page (sourcePath e.1) e.2) s
  code.styles.entries.foldl addStyle s

/-- The packages that pages need. -/
def collected (pages : List PageSource) : Dependencies :=
  pages.foldl (fun d page => d.merge page.dependencies) ∅

/-- The packages that the pages of a project need. -/
def dependencies (code : Sources) : Dependencies := collected code.pages.values

end Sources
end Project
end Pagewright
