/-
# The report on a check

A check runs the lints on every page of a project and looks for component types
without a rule for some platform. The project is valid if there is no error.
-/

import Pagewright.Lint.Basic
import Pagewright.Report.Line

namespace Pagewright
namespace Report

/-- The findings of a check by severity, as messages. -/
structure Check where
  path : String
  platform : Platform
  pageCount : Nat
  errors : List String
  warnings : List String
  infos : List String
deriving DecidableEq

/-- What a page is called, from its place among the pages and its name. -/
def pageLabel (index : Nat) (page : Page) : String :=
  if page.name.isEmpty then "page #" ++ toString (index + 1) else "page '" ++ page.name ++ "'"

/-- A finding of a page as a message. -/
def findingText (label : String) (d : Diagnostic) : String :=
  label ++ ": " ++ d.located "\n  --> " ""

/-- The findings of the lints on pages, the first page being at `index`, with their
severities. -/
def pageFindings (r : Registry) (p : Platform) (index : Nat) :
    List Page → List (Severity × String)
  | [] => []
  | page :: rest =>
    ((Lint.validate ⟨page, p, r⟩).map fun d =>
      (d.severity, findingText (pageLabel index page) d)) ++ pageFindings r p (index + 1) rest

/-- The message for a type without a rule for some platforms. -/
def incompleteText (type : String) (missing : List Platform) : String :=
  "component '" ++ type ++ "' has no rule for: " ++ Text.join ", " (missing.map Platform.id)

/-- Checks pages and a registry. -/
def check (path : String) (r : Registry) (pages : List Page) (p : Platform) : Check :=
  let found := pageFindings r p 0 pages
  let having (s : Severity) := (found.filter fun e => e.1 = s).map Prod.snd
  ⟨path, p, pages.length, having .error, having .warning,
    having .info ++ r.incomplete.map fun e => incompleteText e.1 e.2⟩

namespace Check

/-- Whether the check found no error. -/
def isValid (c : Check) : Bool := c.errors.isEmpty

/-- The lines of the report. -/
def lines (c : Check) : List Line :=
  c.errors.map (fun m => .warning ("error: " ++ m)) ++
    c.warnings.map (fun m => .warning ("warning: " ++ m)) ++
    c.infos.map (fun m => .text ("info: " ++ m)) ++
    (if c.errors.isEmpty && c.warnings.isEmpty && c.infos.isEmpty then [] else [.blank]) ++
    if c.isValid then
      [.text ("✓ " ++ c.path ++ " is valid (" ++ toString c.pageCount ++ " page" ++
        (if c.pageCount = 1 then "" else "s") ++ " for " ++ c.platform.displayName ++ ")")]
    else []

end Check
end Report
end Pagewright
