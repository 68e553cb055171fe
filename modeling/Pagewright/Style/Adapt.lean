/-
# Adapting styles

A style map is adapted entry by entry: unsupported attributes are dropped, each
with a warning, and the others are renamed and converted in their order. Two
attributes that get one name share the place of the first and the value of the
last.

As text, a style map is a block of CSS declarations or an object literal.
-/

import Pagewright.Diagnostic
import Pagewright.Style.Policy

namespace Pagewright
namespace Style

/-- The warning for an attribute that a platform drops. -/
def dropped (p : Platform) (key : String) : Diagnostic :=
  ⟨.warning, "style",
    "style property '" ++ key ++ "' is not supported on " ++ p.displayName ++ " and was dropped",
    none⟩

/-- The warnings for the attributes of a style map that a platform drops. -/
def droppedIn (p : Platform) (styles : Dict String Json) : List Diagnostic :=
  (styles.keys.filter fun key => !isSupported p key).map (dropped p)

/-- A style map on a platform. -/
def adapt (p : Platform) (styles : Dict String Json) : Dict String Json :=
  .ofList (styles.entries.filterMap fun e => transform? p e.1 e.2)

/-- The text of a value in a CSS declaration. -/
def cssValue : Json → String
  | .string s => s
  | v => v.compact

/-- A block of declarations, one to a line, its names spelled by `spell`. -/
def declarations (spell : String → String) (styles : Dict String Json) : String :=
  if styles.isEmpty then "\x7b\x7d"
  else
    "\x7b\n" ++
      Text.join "\n" (styles.entries.map fun e => "  " ++ spell e.1 ++ ": " ++ cssValue e.2 ++ ";") ++
      "\n\x7d"

/-- A style map on a platform, as CSS. -/
def cssText (p : Platform) (styles : Dict String Json) : String :=
  declarations (fun key => key) (adapt p styles)

/-- A style map on a platform, as an object literal. -/
def objectText (p : Platform) (styles : Dict String Json) : String :=
  (Json.ofDict (adapt p styles)).pretty

end Style
end Pagewright
