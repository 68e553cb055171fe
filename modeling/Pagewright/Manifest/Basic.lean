/-
# Manifests

A manifest is a TOML document with the tables `project`, `styles` and `components`,
and no others. The settings of the project are these, and no others:

| key | value |
| --- | --- |
| `name`, `platform` | required |
| `version` | a version, `0.1.0` unless given |
| `output_dir` | a path, `dist` unless given |
| `author`, `description`, `app_id` | optional texts |
| `pages` | paths, none unless given |

A document that has this shape is still refused for, in this order, the name of the
project, and for each component in the order of types: its type, a lack of rules,
and for each of its platforms the tag and then an empty source or target.
-/

import Pagewright.Manifest.Scope
import Pagewright.Mapping.Declaration
import Pagewright.Project.Config
import Pagewright.Toml.Document

namespace Pagewright

open Json (Convention)

/-- The settings and declared components of a project. -/
structure Manifest where
  config : Project.Config
  components : Dict String Mapping.Declaration

namespace Project.Config

/-- The version that a value gives. -/
def version? (v : Json) : Option Version := do
  let s ← v.string?
  (Version.parse s).toOption

/-- The settings of a `project` table. -/
def ofJson? (convention : Convention) (v : Json) : Option Config := do
  let slots ← Json.slots? convention.arrays true
    ["name", "version", "platform", "output_dir", "author", "description", "app_id", "pages"] v
  match slots with
  | [name, version, platform, outputDir, author, description, appId, pages] =>
    let name ← name.required Json.string?
    let version ← version.orElse Version.initial version?
    let platform ← platform.required (Json.platform? convention)
    let outputDir ← outputDir.orElse defaultOutputDir Json.string?
    let author ← author.optional convention Json.string?
    let description ← description.optional convention Json.string?
    let appId ← appId.optional convention Json.string?
    let pages ← pages.orElse [] (Json.items? Json.string?)
    pure ⟨name, version, platform, outputDir, author, description, appId, pages, ∅⟩
  | _ => none

end Project.Config

namespace Manifest

/-- The style maps of a `styles` table, by selector. -/
def styles? (v : Json) : Option (Dict String (Dict String Json)) :=
  v.entries? (Json.entries? some)

/-- The manifest of a document. -/
def ofJson? (v : Json) : Option Manifest := do
  match ← Json.slots? Convention.toml.arrays true ["project", "styles", "components"] v with
  | [project, styles, components] =>
    let config ← project.required (Project.Config.ofJson? .toml)
    let styles ← styles.orElse ∅ styles?
    let components ← components.orElse ∅ (Mapping.declarations? .toml)
    pure ⟨{ config with globalStyles := styles }, components⟩
  | _ => none

/-- Whether a component type is declared. -/
def hasComponent (m : Manifest) (type : String) : Bool := m.components.contains type

/-- Whether a rule renames from or to an empty name. -/
def hasEmptyName (rule : Mapping.Rule) : Bool :=
  (rule.props.getD []).any (fun m => m.source.isEmpty || m.target.isEmpty) ||
    (rule.styles.getD []).any fun m => m.source.isEmpty || m.target.isEmpty

/-- Checks the rule for a platform, in the scope of its component. -/
def checkRule (s : Scope) (e : Platform × Mapping.Rule) : Except Failure Unit := do
  let s := s.push e.1.id
  s.checkTag e.2.tag !e.2.importPath.isEmpty
  if hasEmptyName e.2 then .error (.emptyName s.pathText) else pure ()

/-- Checks a declared component. -/
def checkComponent (s : Scope) (e : String × Mapping.Declaration) : Except Failure Unit := do
  s.checkName e.1 "component type"
  let s := s.push e.1
  if e.2.rules.isEmpty then .error (.noRules s.pathText)
  else e.2.rules.entries.forM (checkRule s)

/-- Checks the names in a manifest. -/
def check (s : Scope) (m : Manifest) : Except Failure Unit := do
  s.checkProjectName m.config.name
  m.components.entries.forM (checkComponent s)

/-- Reads a manifest. -/
def parse (text : String) : Except Failure Manifest :=
  match (Toml.parse? text).bind ofJson? with
  | none => .error .malformed
  | some m => do
    check (.ofText text) m
    pure m

end Manifest

/-- Registers the components that a manifest declares. -/
def Registry.registerManifest (r : Registry) (m : Manifest) : Registry :=
  r.registerDeclared m.components

end Pagewright
