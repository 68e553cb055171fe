/-
# Paths

A path is a text with `/` between its segments. Empty segments and `.` behind the
first one say nothing; the others are the components of the path.

| path | components | parent |
| --- | --- | --- |
| `a/b.json` | `a`, `b.json` | `a` |
| `./a` | `.`, `a` | `.` |
| `a//b/./` | `a`, `b` | `a` |
| `a` | `a` | the empty path |
| `/a` | `/`, `a` | `/` |
| `/`, the empty path | `/`, none | none |
-/

import Pagewright.Text.Search

namespace Pagewright
namespace Path

/-- The segments of a path. -/
def segments (path : String) : List String :=
  (Text.splitWhere (· == '/') path.toList).map String.ofList

/-- Whether a path does not depend on the working directory. -/
def isAbsolute (path : String) : Bool := path.toList.head? == some '/'

/-- Whether a segment behind the first one is a component. -/
def isComponent (segment : String) : Bool := !segment.isEmpty && segment != "."

/-- The components of a path. -/
def components (path : String) : List String :=
  match segments path with
  | [] => []
  | first :: rest =>
    (if isAbsolute path then ["/"] else if first.isEmpty then [] else [first]) ++
      rest.filter isComponent

/-- A path in another one; an absolute path stays as it is. -/
def join (base path : String) : String :=
  if isAbsolute path || base.isEmpty then path
  else if base.toList.getLast? == some '/' then base ++ path
  else base ++ "/" ++ path

/-- The path below a base that the non-empty segments of a path lead to. -/
def below (base path : String) : String :=
  ((segments path).filter fun s => !s.isEmpty).foldl join base

/-- A reversed path without what says nothing at its end. -/
def dropIdle : List Char → List Char
  | '/' :: c :: s => dropIdle (c :: s)
  | '.' :: '/' :: c :: s => dropIdle (c :: s)
  | ['.', '/'] => ['/']
  | s => s

/-- The path without its last component; there is none for a root and the empty path. -/
def parent? (path : String) : Option String :=
  match dropIdle path.toList.reverse with
  | [] | ['/'] => none
  | s => some (String.ofList (dropIdle (s.dropWhile (· != '/'))).reverse)

/-- The path of the working directory. -/
def here : String := "."

/-- Whether a path ends with a segment for the directory itself. -/
def endsInHere (path : String) : Bool :=
  ((segments path).filter fun s => !s.isEmpty).getLast? == some here

end Path
end Pagewright
