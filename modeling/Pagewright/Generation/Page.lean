/-
# Generating a page

A page is lowered, its style sheet is made, and both become source text: the code
imports the style sheet, beside it, when it has a rule.
-/

import Pagewright.Markup.Lowering
import Pagewright.Source.File
import Pagewright.Style.Sheet

namespace Pagewright
namespace Generation

/-- The path by which a page imports its style sheet. -/
def pageStylesPath : String := "./index.scss"

/-- A generated page. -/
structure PageOutput where
  code : String
  styles : String
  markup : Markup
  context : Context

/-- Generates a page under a name; fails with the cause. -/
def pageOutput (r : Registry) (page : Page) (p : Platform) (name : String) :
    Except Failure PageOutput :=
  match page.components with
  | none => .error (.treeless page.name)
  | some root => do
    let (markup, context) ← Lowering.lower r p root
    let sheet := Style.Sheet.ofTree p root
    let imports :=
      if sheet.isEmpty then context.imports else context.imports.addModule pageStylesPath
    pure ⟨(Source.pageFile name imports markup).render, sheet.render, markup,
      { context with imports := imports }⟩

/-- Generates a page under a name. -/
def generatePage (r : Registry) (page : Page) (p : Platform) (name : String) :
    Except Failure PageOutput :=
  (pageOutput r page p name).mapError (.on p)

/-- The part of a page that can be shown. -/
structure Preview where
  jsx : String
  styles : String
  markup : Markup

/-- Generates a page under its own name and keeps what can be shown. -/
def preview (r : Registry) (page : Page) (p : Platform) : Except Failure Preview := do
  let output ← generatePage r page p page.name
  pure ⟨Source.Jsx.render output.markup, output.styles, output.markup⟩

end Generation
end Pagewright
