/-
# The report on components

Every known component type with its rule for each platform asked for.
-/

import Pagewright.Mapping.Registry
import Pagewright.Report.Line

namespace Pagewright
namespace Report

/-- What a report says of a rule. -/
def ruleText : Option Mapping.Rule → String
  | some rule =>
    if rule.isIntrinsic then "<" ++ rule.tag ++ ">" else rule.tag ++ " from " ++ rule.importPath
  | none => "unsupported"

/-- The lines for a component type. It is marked as custom beside a rule only. -/
def componentLines (r : Registry) (platforms : List Platform) (type : String) : List Line :=
  .heading (if r.hasCustom type && !platforms.isEmpty then type ++ " (custom)" else type) ::
    platforms.map fun p => .keyValue p.id (ruleText (r.get? type p))

/-- Groups of lines with a blank line between neighbours. -/
def separated : List (List Line) → List Line
  | [] => []
  | [group] => group
  | group :: next :: rest => group ++ .blank :: separated (next :: rest)

/-- The report on the components of a registry. -/
def components (r : Registry) (platforms : List Platform) : List Line :=
  separated (r.types.map (componentLines r platforms))

end Report
end Pagewright
