/-
# Lines of a report

What commands print, by meaning. Warnings go to the error output, everything else
to the standard output.
-/

import Pagewright.Text.Search

namespace Pagewright
namespace Report

/-- A line of a report. -/
inductive Line where
  | heading (name : String)
  | keyValue (key value : String)
  | item (text : String)
  | added (text : String)
  | warning (message : String)
  | divider (label : String)
  | text (text : String)
  | blank
deriving DecidableEq

/-- The text of a line. -/
def Line.toText : Line → String
  | .heading name => name ++ ":"
  | .keyValue key value => "  " ++ key ++ ": " ++ value
  | .item s => "  - " ++ s
  | .added s => "  + " ++ s
  | .warning message => message
  | .divider label => "── " ++ label ++ " ──"
  | .text s => s
  | .blank => ""

/-- Whether a line goes to the error output. -/
def Line.isWarning : Line → Bool
  | .warning _ => true
  | _ => false

/-- The text of lines, each with a line feed. -/
def textOf (lines : List Line) : String := String.join (lines.map fun l => l.toText ++ "\n")

/-- What lines write to the standard output. -/
def standardText (lines : List Line) : String := textOf (lines.filter fun l => !l.isWarning)

/-- What lines write to the error output. -/
def errorText (lines : List Line) : String := textOf (lines.filter Line.isWarning)

end Report
end Pagewright
