/-
# Lints

A lint looks at a page, together with a platform and a registry, and reports what
generation would fail on (an error) or work around (a warning). Lints never stop
generation. Those of a node carry its location.
-/

import Pagewright.Component.Basic
import Pagewright.Diagnostic
import Pagewright.Mapping.Registry
import Pagewright.Text.Blank

namespace Pagewright

/-- What lints look at. -/
structure Subject where
  page : Page
  platform : Platform
  registry : Registry

/-- A named check of a page. -/
structure Lint where
  name : String
  description : String
  findings : Subject → List Diagnostic

namespace Lint

/-- A finding of a lint at a location. -/
def finding (severity : Severity) (message location : String) : Diagnostic :=
  ⟨severity, "validate", message, some location⟩

/-- The findings of a check on every node of a page, in pre-order. -/
def onNodes (check : Subject → Component → List (Severity × String)) (s : Subject) :
    List Diagnostic :=
  s.page.walk.flatMap fun e =>
    (check s e.2).map fun found => finding found.1 found.2 e.1.toText

/-- The page has a name. -/
def pageName : Lint where
  name := "page-name"
  description := "Require a non-empty page name"
  findings s :=
    if (Text.trim s.page.name.toList).isEmpty then
      [finding .error "page name cannot be empty" "name"]
    else []

/-- The page has a component tree. -/
def componentTree : Lint where
  name := "component-tree"
  description := "Require a root component"
  findings s :=
    match s.page.components with
    | some _ => []
    | none => [finding .error "page must contain a component tree" "components"]

/-- What is missing of the identity of a node. -/
def missingIdentity (c : Component) : List (Severity × String) :=
  (if c.id.isEmpty then [(.error, "component id cannot be empty")] else []) ++
    if c.type.isEmpty then [(.error, "component type cannot be empty")] else []

/-- Every node has an id and a type. -/
def componentIdentity : Lint where
  name := "component-identity"
  description := "Require an id and a type on every component"
  findings := onNodes fun _ => missingIdentity

/-- The message for a type without a rule for the platform. -/
def unsupportedMessage (type : String) (p : Platform) : String :=
  "component type '" ++ type ++ "' is not supported on " ++ p.displayName

/-- Every type that is not empty has a rule for the platform. -/
def unsupportedComponent : Lint where
  name := "unsupported-component"
  description := "Warn about component types without a mapping for the platform"
  findings := onNodes fun s c =>
    if c.type.isEmpty || s.registry.isSupported c.type s.platform then []
    else [(.warning, unsupportedMessage c.type s.platform)]

/-- The lints that look at the page alone. -/
def structural : List Lint := [pageName, componentTree, componentIdentity]

/-- The lints of a validation. -/
def standard : List Lint := structural ++ [unsupportedComponent]

/-- The findings of lints, one lint after the other. -/
def run (lints : List Lint) (s : Subject) : List Diagnostic := lints.flatMap (·.findings s)

/-- The findings of the standard lints. -/
def validate (s : Subject) : List Diagnostic := run standard s

/-- The findings of the structural lints as messages. -/
def structuralMessages (s : Subject) : List String :=
  (run structural s).map fun d => d.located " (at " ")"

end Lint
end Pagewright
