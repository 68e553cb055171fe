/-
# The mapping registry

Two tables of mappings by component type: the built-in one, fixed when the
registry is made, and the custom one, to which mappings are registered. A lookup
asks the custom table first, platform by platform.

| registering a mapping of a type | custom table afterwards |
| --- | --- |
| the type has no custom mapping | the mapping, after the others |
| it has one, without `override` | the old one with the new rules merged in |
| it has one, with `override` | the new mapping in its place |
-/

import Pagewright.Mapping.Builtin

namespace Pagewright

/-- The built-in and the custom mappings, by component type. -/
structure Registry where
  builtins : Dict String Mapping
  custom : Dict String Mapping

namespace Registry

/-- A registry with a table of built-in mappings; of two for one type the last counts. -/
def withBuiltins (builtins : List Mapping) : Registry :=
  ⟨.ofList (builtins.map fun m => (m.type, m)), ∅⟩

/-- The registry with the standard mappings. -/
def standard : Registry := withBuiltins Mapping.Builtin.all

instance : Inhabited Registry := ⟨standard⟩

/-- Registers one mapping. -/
def registerOne (override : Bool) (r : Registry) (m : Mapping) : Registry :=
  let entry :=
    match r.custom.get? m.type with
    | some existing => if override then m else existing.merge m
    | none => m
  { r with custom := r.custom.insert m.type entry }

/-- Registers mappings one after the other. -/
def register (r : Registry) (mappings : List Mapping) (override : Bool) : Registry :=
  mappings.foldl (registerOne override) r

/-- Removes every custom mapping. -/
def clearCustom (r : Registry) : Registry := { r with custom := ∅ }

/-- The rule for a type on a platform. -/
def get? (r : Registry) (type : String) (p : Platform) : Option Mapping.Rule :=
  ((r.custom.get? type).bind (·.rule? p)).or ((r.builtins.get? type).bind (·.rule? p))

/-- The mapping of a type with the custom rules in front of the built-in ones. -/
def resolved? (r : Registry) (type : String) : Option Mapping :=
  match r.builtins.get? type, r.custom.get? type with
  | some builtin, some custom => some (builtin.merge custom)
  | some only, none | none, some only => some only
  | none, none => none

/-- The known types: the built-in ones, then the new custom ones. -/
def types (r : Registry) : List String :=
  r.builtins.keys ++ r.custom.keys.filter fun t => !r.builtins.contains t

/-- Whether a type has a rule for a platform. -/
def isSupported (r : Registry) (type : String) (p : Platform) : Bool := (r.get? type p).isSome

/-- The resolved mapping of every known type. -/
def allResolved (r : Registry) : List Mapping := r.types.filterMap r.resolved?

/-- The types without a rule for some platform, with those platforms. -/
def incomplete (r : Registry) : List (String × List Platform) :=
  r.allResolved.filterMap fun m =>
    if m.missing.isEmpty then none else some (m.type, m.missing)

/-- Whether a type has a custom mapping. -/
def hasCustom (r : Registry) (type : String) : Bool := r.custom.contains type

end Registry
end Pagewright
