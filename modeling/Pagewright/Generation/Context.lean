/-
# What generation collects

While a page is generated, a context collects the modules that its code imports,
the packages these modules belong to, and the findings.
-/

import Pagewright.Diagnostic
import Pagewright.Generation.Dependencies
import Pagewright.Generation.Imports

namespace Pagewright

/-- What is collected while a page is generated. -/
structure Context where
  imports : Imports
  dependencies : Dependencies
  diagnostics : List Diagnostic
deriving DecidableEq

namespace Context

/-- Nothing collected. -/
def empty : Context := ⟨∅, ∅, []⟩

instance : Inhabited Context := ⟨empty⟩

/-- Records the use of a tag of a module. -/
def useTag (c : Context) (path tag : String) : Context :=
  { c with imports := c.imports.add path tag, dependencies := c.dependencies.addPath path }

/-- Records findings. -/
def report (c : Context) (found : List Diagnostic) : Context :=
  { c with diagnostics := c.diagnostics ++ found }

/-- The findings that are warnings. -/
def warnings (c : Context) : List Diagnostic := c.diagnostics.filter (·.isWarning)

end Context
end Pagewright
