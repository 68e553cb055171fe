/-
# Configuration files

The files of a generated project that do not come from one of its pages:

| file | content |
| --- | --- |
| `app.config.ts` | the routes of the pages and the title |
| `app.tsx` | the root component |
| `project.config.json` | the settings of the developer tools, for mini programs only |
| `package.json` | scripts and packages |
| `tsconfig.json` | compiler settings, the same for every project |
| `index.config.ts` | the title of a page, beside the page |
-/

import Pagewright.Generation.Dependencies
import Pagewright.Json.Printer
import Pagewright.Project.Config
import Pagewright.Source.File

namespace Pagewright
namespace Project

open Source (Writer)

/-- The paths of the configuration files. -/
def appConfigPath : String := "app.config.ts"
def appEntryPath : String := "app.tsx"
def developerConfigPath : String := "project.config.json"
def packageManifestPath : String := "package.json"
def compilerConfigPath : String := "tsconfig.json"

/-- The path of the global style sheet. -/
def appStylesPath : String := "app.scss"

/-- A call of a definition function with an object literal, exported as the default. -/
def exportDefinition (function : String) (body : Writer → Writer) : String :=
  ((Writer.new default).block ("export default " ++ function ++ "(\x7b") "\x7d);" body).text

/-- The line that sets a title. -/
def titleLine (title : String) : String := "navigationBarTitleText: " ++ Json.quote title ++ ","

/-- The application's configuration. -/
def appConfig (title : String) (routes : List String) : String :=
  exportDefinition "defineAppConfig" fun w =>
    (w.block "pages: [" "]," fun w => routes.foldl (fun w r => w.line (Json.quote r ++ ",")) w)
      |>.block "window: \x7b" "\x7d," fun w =>
        w.line "backgroundTextStyle: \"light\","
          |>.line "navigationBarBackgroundColor: \"#fff\","
          |>.line (titleLine title)
          |>.line "navigationBarTextStyle: \"black\","

/-- The configuration of a page. -/
def pageConfig (title : String) : String :=
  exportDefinition "definePageConfig" fun w => w.line (titleLine title)

/-- The root component. It imports the global style sheet if there is one. -/
def appEntry (globalStyles : Bool) : String :=
  let react : Source.Import := .names "react" ["PropsWithChildren"]
  let styles := if globalStyles then [Source.Import.effect ("./" ++ appStylesPath)] else []
  let app :=
    "function App(\x7b children \x7d: PropsWithChildren) \x7b\n  return children;\n\x7d"
  (⟨react :: styles, [Source.code app, Source.code "export default App;"]⟩ : Source.File).render

/-- The application id of a project that has none of its own. -/
def defaultAppId : String := "touristappid"

/-- The developer tools' settings; empty unless the platform is a mini program. -/
def developerConfig (config : Config) (p : Platform) : String :=
  if p.isMiniProgram then
    (Json.object [
      ("miniprogramRoot", .string "dist/"),
      ("projectname", .string config.name),
      ("description", .string (config.description.getD "")),
      ("appid", .string (config.appId.getD defaultAppId)),
      ("setting", .object [
        ("urlCheck", .bool true),
        ("es6", .bool false),
        ("postcss", .bool false),
        ("minified", .bool false)]),
      ("compileType", .string "miniprogram")]).pretty ++ "\n"
  else ""

/-- The version ranges of the packages that every project needs. -/
def taroVersion : String := "^3.6.0"
def reactVersion : String := "^18.2.0"
def reactNativeVersion : String := "^0.73.0"
def typescriptVersion : String := "^5.1.0"

/-- The packages that a platform needs at run time. -/
def basePackages (p : Platform) : List (String × String) :=
  [("@tarojs/components", taroVersion),
    ("@tarojs/runtime", taroVersion),
    ("@tarojs/taro", taroVersion),
    ("@tarojs/react", taroVersion),
    ("@tarojs/plugin-platform-" ++ p.id, taroVersion),
    ("react", reactVersion)] ++
  match p with
  | .rn =>
    [("@tarojs/taro-rn", taroVersion),
      ("@tarojs/components-rn", taroVersion),
      ("react-native", reactNativeVersion)]
  | _ => [("react-dom", reactVersion)]

/-- The packages that a platform needs for development. -/
def baseDevPackages (p : Platform) : List (String × String) :=
  [("@tarojs/cli", taroVersion),
    (match p with
      | .rn => "@tarojs/rn-runner"
      | _ => "@tarojs/webpack5-runner", taroVersion),
    ("@types/react", reactVersion),
    ("typescript", typescriptVersion)]

/-- Base packages, then the collected ones of the same kind; a base package keeps
its version. -/
def withCollected (base : List (String × String)) (dev : Bool) (collected : Dependencies) :
    Dict String String :=
  (collected.sorted.filter fun e => e.2.dev == dev).foldl
    (fun d e => if d.contains e.1 then d else d.insert e.1 e.2.version) (.ofList base)

/-- A table of texts in JSON. -/
def textTable (d : Dict String String) : Json := .ofDict (d.map .string)

/-- The package manifest of a project whose pages need the collected packages. -/
def packageManifest (config : Config) (p : Platform) (collected : Dependencies) : String :=
  (Json.object [
    ("name", .string config.name),
    ("version", .string config.version.toText),
    ("private", .bool true),
    ("description", .string (config.description.getD "")),
    ("author", .string (config.author.getD "")),
    ("scripts", .object [
      ("build:" ++ p.id, .string ("taro build --type " ++ p.id)),
      ("dev:" ++ p.id, .string ("npm run build:" ++ p.id ++ " -- --watch"))]),
    ("dependencies", textTable (withCollected (basePackages p) false collected)),
    ("devDependencies", textTable (withCollected (baseDevPackages p) true collected))]).pretty ++
  "\n"

/-- The compiler settings. -/
def compilerConfig : String :=
  Text.join "\n" [
    "\x7b",
    "  \"compilerOptions\": \x7b",
    "    \"target\": \"es2017\",",
    "    \"module\": \"commonjs\",",
    "    \"removeComments\": false,",
    "    \"preserveConstEnums\": true,",
    "    \"moduleResolution\": \"node\",",
    "    \"experimentalDecorators\": true,",
    "    \"noImplicitAny\": false,",
    "    \"allowSyntheticDefaultImports\": true,",
    "    \"outDir\": \"lib\",",
    "    \"noUnusedLocals\": true,",
    "    \"noUnusedParameters\": true,",
    "    \"strictNullChecks\": true,",
    "    \"sourceMap\": true,",
    "    \"rootDir\": \".\",",
    "    \"jsx\": \"react-jsx\",",
    "    \"allowJs\": true,",
    "    \"resolveJsonModule\": true,",
    "    \"typeRoots\": [\"node_modules/@types\"]",
    "  \x7d,",
    "  \"include\": [\"./pages\", \"./app.config.ts\", \"./types\"],",
    "  \"compileOnSave\": false",
    "\x7d",
    ""]

end Project
end Pagewright
