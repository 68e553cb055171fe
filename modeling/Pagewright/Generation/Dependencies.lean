/-
# Package dependencies

The packages that a project needs, each with a version range. An import path
belongs to a package when it is neither empty nor a path in the project:

| import path | package |
| --- | --- |
| `pkg`, `pkg/sub/path` | `pkg` |
| `@scope/pkg`, `@scope/pkg/sub` | `@scope/pkg` |
| `@scope`, `./file`, `/file`, the empty path | none |
-/

import Pagewright.Dict
import Pagewright.Text.Search

namespace Pagewright

/-- The package that an import path belongs to. -/
def packageName? (path : String) : Option String :=
  match Text.splitWhere (· == '/') path.toList with
  | first :: rest =>
    if first.isEmpty || first.head? == some '.' then none
    else if first.head? == some '@' then
      match rest with
      | (c :: second) :: _ => some (String.ofList first ++ "/" ++ String.ofList (c :: second))
      | _ => none
    else some (String.ofList first)
  | [] => none

/-- How a package is needed. -/
structure Dependency where
  version : String
  dev : Bool
deriving DecidableEq, Inhabited

namespace Dependency

/-- A version range at run time. -/
def runtime (version : String) : Dependency := ⟨version, false⟩

/-- Any version. -/
def any : Dependency := runtime "*"

/-- The dependency, needed for development only. -/
def forDevelopment (d : Dependency) : Dependency := { d with dev := true }

end Dependency

/-- The packages that a project needs. -/
structure Dependencies where
  packages : Dict String Dependency
deriving DecidableEq

namespace Dependencies

/-- No packages. -/
def empty : Dependencies := ⟨∅⟩

instance : EmptyCollection Dependencies := ⟨empty⟩

instance : Inhabited Dependencies := ⟨empty⟩

/-- Adds a package; one that is there already stays as it is. -/
def add (d : Dependencies) (name : String) (dependency : Dependency) : Dependencies :=
  if d.packages.contains name then d else ⟨d.packages.insert name dependency⟩

/-- Adds the package that an import path belongs to. -/
def addPath (d : Dependencies) (path : String) : Dependencies :=
  match packageName? path with
  | some name => d.add name .any
  | none => d

/-- Adds the packages of another collection. -/
def merge (d other : Dependencies) : Dependencies :=
  other.packages.entries.foldl (fun d e => d.add e.1 e.2) d

/-- Whether a package is needed. -/
def contains (d : Dependencies) (name : String) : Bool := d.packages.contains name

/-- How a package is needed. -/
def get? (d : Dependencies) (name : String) : Option Dependency := d.packages.get? name

/-- The packages in the order of their names. -/
def sorted (d : Dependencies) : List (String × Dependency) :=
  d.packages.entries.mergeSort fun a b => decide (a.1 ≤ b.1)

/-- The names of the packages, in order. -/
def names (d : Dependencies) : List String := d.sorted.map Prod.fst

/-- The number of packages. -/
def size (d : Dependencies) : Nat := d.packages.size

/-- Whether there is no package. -/
def isEmpty (d : Dependencies) : Bool := d.packages.isEmpty

end Dependencies
end Pagewright
