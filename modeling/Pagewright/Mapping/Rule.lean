/-
# Mapping rules

A rule says how one logical component type is realized on one platform: the tag,
the module it is imported from (none for an intrinsic element), renames of props
and renames of style attributes. A mapping holds the rules of one type, at most
one for each platform.

Merging a mapping into another replaces the rule of every platform it mentions,
whole.
-/

import Pagewright.Mapping.Transform
import Pagewright.Platform

namespace Pagewright
namespace Mapping

/-- A rename of a prop. -/
structure PropMapping where
  source : String
  target : String
  transform : Option Transform

/-- A rename of a style attribute, on some platforms or on all. -/
structure StyleMapping where
  source : String
  target : String
  transform : Option Transform
  platforms : Option (List Platform)

/-- How a component type is realized on a platform. Without a list of prop
mappings the props pass unchanged. -/
structure Rule where
  tag : String
  importPath : String
  props : Option (List PropMapping)
  styles : Option (List StyleMapping)

namespace PropMapping

/-- A rename without transform. -/
def rename (source target : String) : PropMapping := ⟨source, target, none⟩

/-- A prop that keeps its name. -/
def keep (name : String) : PropMapping := rename name name

/-- The rename with a transform. -/
def withTransform (m : PropMapping) (t : Transform) : PropMapping := { m with transform := some t }

/-- The value of the target for a value of the source. -/
def value (m : PropMapping) (v : PropValue) : PropValue :=
  match m.transform with
  | some t => t.run v
  | none => v

end PropMapping

namespace StyleMapping

/-- Whether the rename applies on a platform. -/
def appliesTo (m : StyleMapping) (p : Platform) : Bool :=
  match m.platforms with
  | some platforms => platforms.contains p
  | none => true

/-- The value of the target for a value of the source. Code made by a custom
transform is kept as its text. -/
def value (m : StyleMapping) (v : Json) : Json :=
  match m.transform with
  | some t =>
    match t.run (.literal v) with
    | .literal w => w
    | .expression code => .string code
  | none => v

end StyleMapping

namespace Rule

/-- A rule for a tag of a module. -/
def imported (tag importPath : String) : Rule := ⟨tag, importPath, none, none⟩

/-- A rule for an intrinsic element. -/
def intrinsic (tag : String) : Rule := imported tag ""

/-- The rule with a list of prop mappings. -/
def withProps (r : Rule) (props : List PropMapping) : Rule := { r with props := some props }

/-- Whether the tag needs no import. -/
def isIntrinsic (r : Rule) : Bool := r.importPath == ""

end Rule

end Mapping

/-- The rules of one component type. -/
structure Mapping where
  type : String
  rules : Dict Platform Mapping.Rule

namespace Mapping

/-- The mapping of a type without rules. -/
def ofType (type : String) : Mapping := ⟨type, ∅⟩

/-- The mapping with the rule of a platform set. -/
def withRule (m : Mapping) (p : Platform) (r : Rule) : Mapping :=
  { m with rules := m.rules.insert p r }

/-- The mapping with one rule set for several platforms. -/
def withEach (m : Mapping) (platforms : List Platform) (r : Rule) : Mapping :=
  platforms.foldl (fun m p => m.withRule p r) m

/-- The mapping with one rule set for every platform. -/
def withAll (m : Mapping) (r : Rule) : Mapping := m.withEach Platform.all r

/-- The rule for a platform. -/
def rule? (m : Mapping) (p : Platform) : Option Rule := m.rules.get? p

/-- The platforms without a rule, in canonical order. -/
def missing (m : Mapping) : List Platform := Platform.all.filter fun p => !m.rules.contains p

/-- The mapping with the rules of another in front of its own. -/
def merge (m patch : Mapping) : Mapping :=
  { m with rules := m.rules.insertAll patch.rules.entries }

/-- A patch takes precedence on the platforms that it has a rule for. -/
@[simp] theorem rule?_merge (m patch : Mapping) (p : Platform) :
    (m.merge patch).rule? p = (patch.rule? p).or (m.rule? p) :=
  Dict.get?_insertAll_entries m.rules patch.rules p

end Mapping
end Pagewright
