/-
# Source files

A source file is a list of import statements and a list of parts. A blank line
stands between the imports and the parts, and between one part and the next.
-/

import Pagewright.Source.Import
import Pagewright.Source.Jsx

namespace Pagewright
namespace Source

/-- The lines of a piece of code as fragments. -/
def code (s : String) : List Fragment :=
  (Text.linesOf s.toList).map fun line => .line (String.ofList line)

/-- A function component around a markup tree, exported as the default. -/
def functionComponent (name : String) (root : Markup) : List Fragment :=
  [.block ("export default function " ++ name ++ "() \x7b")
    [.block "return (" (Jsx.fragments root) (some ");")]
    (some "\x7d")]

/-- A source file in the making. -/
structure File where
  imports : List Import
  parts : List (List Fragment)

namespace File

/-- Whether the file has nothing in it. -/
def isEmpty (f : File) : Bool := f.imports.isEmpty && f.parts.isEmpty

/-- The parts with a blank line between neighbours. -/
def separated : List (List Fragment) → List Fragment
  | [] => []
  | [part] => part
  | part :: next :: rest => part ++ .blank :: separated (next :: rest)

/-- Everything in the file. -/
def fragments (f : File) : List Fragment :=
  f.imports.map Import.fragment ++
    (if f.imports.isEmpty || f.parts.isEmpty then [] else [.blank]) ++ separated f.parts

/-- The text of the file with a unit of indentation. -/
def renderWith (indent : Indent) (f : File) : String :=
  ((Writer.new indent).fragments f.fragments).text

/-- The text of the file. -/
def render (f : File) : String := f.renderWith default

end File

/-- The source file of a page component. -/
def pageFile (name : String) (imports : Imports) (root : Markup) : File :=
  ⟨Import.ofImports imports, [functionComponent (Naming.componentName name) root]⟩

end Source
end Pagewright
