/-
# Import statements

One statement imports a default name, some named ones, both or nothing; one that
imports nothing runs the module for its effect:

| default | named | statement |
| --- | --- | --- |
| | | `import "m";` |
| | `a`, `b` | `import { a, b } from "m";` |
| `D` | | `import D from "m";` |
| `D` | `a`, `b` | `import D, { a, b } from "m";` |
-/

import Pagewright.Generation.Imports
import Pagewright.Source.Fragment

namespace Pagewright
namespace Source

/-- An import of one module. -/
structure Import where
  module : String
  default : Option String
  named : List String
deriving DecidableEq

namespace Import

/-- An import of a module for its effect. -/
def effect (module : String) : Import := ⟨module, none, []⟩

/-- An import of names of a module. -/
def names (module : String) (named : List String) : Import := ⟨module, none, named⟩

/-- Whether the module is imported for its effect only. -/
def isEffect (i : Import) : Bool := i.default.isNone && i.named.isEmpty

/-- What the statement imports, before the module. -/
def clause (i : Import) : String :=
  let named := "\x7b " ++ Text.join ", " i.named ++ " \x7d"
  match i.default, i.named with
  | none, [] => ""
  | none, _ :: _ => named ++ " from "
  | some d, [] => d ++ " from "
  | some d, _ :: _ => d ++ ", " ++ named ++ " from "

/-- The statement. -/
def statement (i : Import) : String := "import " ++ i.clause ++ "\"" ++ i.module ++ "\";"

/-- The statement as a fragment. -/
def fragment (i : Import) : Fragment := .line i.statement

/-- The statements for collected imports: the modules with names in the order of
their paths, then the others in the order in which they were added. -/
def ofImports (imports : Imports) : List Import :=
  (imports.sorted.filter fun e => !e.2.isEmpty).map (fun e => names e.1 e.2.items) ++
    (imports.entries.filter fun e => e.2.isEmpty).map fun e => effect e.1

end Import
end Source
end Pagewright
