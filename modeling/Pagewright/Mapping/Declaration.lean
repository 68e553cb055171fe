/-
# Declared mappings

The mappings of a manifest's `[components]` table. A declared component holds an
`override` flag and, under the id of each platform it mentions, a rule; a rule
holds the fields below, and no others.

| rule | | prop rename | | style rename | |
| --- | --- | --- | --- | --- | --- |
| `component` | required | `source` | required | `source` | required |
| `import` | empty | `target` | required | `target` | required |
| `props` | optional | `transform` | optional | `transform` | optional |
| `styles` | optional | | | `platforms` | optional |

A transform is `"not"`, or an object with one of the keys `template`, `wrap` and
`choose`; the last holds `equals`, `then` and `otherwise`, and what else it holds
is skipped.
-/

import Pagewright.Json.Record
import Pagewright.Mapping.Registry

namespace Pagewright

open Json (Convention Slot)

namespace Transform

/-- The transform that a value declares. -/
def ofJson? (convention : Convention) : Json → Option Transform
  | .string s => if s = "not" then some .not else none
  | .object [("not", payload)] => if convention.payload payload then some .not else none
  | .object [("template", v)] => v.string?.map .template
  | .object [("wrap", v)] => v.string?.map .wrap
  | .object [("choose", v)] => do
    match ← Json.slots? convention.choiceArrays false ["equals", "then", "otherwise"] v with
    | [.given equals, .given thenValue, .given otherwise] =>
      some (.choose equals thenValue otherwise)
    | _ => none
  | _ => none

end Transform

namespace Mapping

/-- The prop rename that a value declares. -/
def PropMapping.ofJson? (convention : Convention) (v : Json) : Option PropMapping := do
  match ← Json.slots? convention.arrays true ["source", "target", "transform"] v with
  | [source, target, transform] =>
    let source ← source.required Json.string?
    let target ← target.required Json.string?
    let transform ← transform.optional convention (Transform.ofJson? convention)
    pure ⟨source, target, transform⟩
  | _ => none

/-- The style rename that a value declares. -/
def StyleMapping.ofJson? (convention : Convention) (v : Json) : Option StyleMapping := do
  match ← Json.slots? convention.arrays true ["source", "target", "transform", "platforms"] v with
  | [source, target, transform, platforms] =>
    let source ← source.required Json.string?
    let target ← target.required Json.string?
    let transform ← transform.optional convention (Transform.ofJson? convention)
    let platforms ← platforms.optional convention (Json.items? (Json.platform? convention))
    pure ⟨source, target, transform, platforms⟩
  | _ => none

/-- The rule that a value declares. -/
def Rule.ofJson? (convention : Convention) (v : Json) : Option Rule := do
  match ← Json.slots? convention.arrays true ["component", "import", "props", "styles"] v with
  | [tag, importPath, props, styles] =>
    let tag ← tag.required Json.string?
    let importPath ← importPath.orElse "" Json.string?
    let props ← props.optional convention (Json.items? (PropMapping.ofJson? convention))
    let styles ← styles.optional convention (Json.items? (StyleMapping.ofJson? convention))
    pure ⟨tag, importPath, props, styles⟩
  | _ => none

/-- A declared component: its rules by platform, and whether it replaces an
earlier custom mapping whole. -/
structure Declaration where
  override : Bool
  rules : Dict Platform Rule

namespace Declaration

/-- The declaration that a value spells. -/
def ofJson? (convention : Convention) : Json → Option Declaration
  | .object fields => do
    let override ←
      match fields.lookup "override" with
      | some v => v.bool?
      | none => some false
    let rules ← (fields.filter fun f => f.1 ≠ "override").mapM fun (f : String × Json) => do
      let p ← Platform.ofId? f.1
      let rule ← Rule.ofJson? convention.inRules f.2
      pure (p, rule)
    pure ⟨override, .ofList rules⟩
  | _ => none

/-- The mapping of a declared type. -/
def toMapping (type : String) (d : Declaration) : Mapping := ⟨type, d.rules⟩

end Declaration

/-- The declarations of a `[components]` table, by component type. -/
def declarations? (convention : Convention) (v : Json) : Option (Dict String Declaration) :=
  v.entries? (Declaration.ofJson? convention)

end Mapping

/-- Registers declared components in order, each with its own override flag. -/
def Registry.registerDeclared (r : Registry) (declared : Dict String Mapping.Declaration) :
    Registry :=
  declared.entries.foldl (fun r e => r.register [e.2.toMapping e.1] e.2.override) r

end Pagewright
