/-
# Diagnostics

A finding that does not stop generation: how severe it is, the phase that made
it, a message, and where in a page or project it belongs.
-/

import Pagewright.Json.Basic

namespace Pagewright

/-- How severe a finding is. -/
inductive Severity where
  | error
  | warning
  | info
deriving DecidableEq, Inhabited

/-- The name of a severity. -/
def Severity.name : Severity → String
  | .error => "error"
  | .warning => "warning"
  | .info => "info"

/-- A finding of generation or validation. -/
structure Diagnostic where
  severity : Severity
  phase : String
  message : String
  location : Option String
deriving DecidableEq, Inhabited

namespace Diagnostic

/-- The finding at a location. -/
def locatedAt (d : Diagnostic) (location : String) : Diagnostic :=
  { d with location := some location }

/-- Whether the finding is an error. -/
def isError (d : Diagnostic) : Bool := d.severity == .error

/-- Whether the finding is a warning. -/
def isWarning (d : Diagnostic) : Bool := d.severity == .warning

/-- The message, with the location in brackets when there is one. -/
def located (d : Diagnostic) (before after : String) : String :=
  match d.location with
  | some location => d.message ++ before ++ location ++ after
  | none => d.message

/-- The finding as a line of text. -/
def toText (d : Diagnostic) : String := d.severity.name ++ ": " ++ d.located " (at " ")"

/-- The finding in its JSON form. -/
def toJson (d : Diagnostic) : Json :=
  .object [
    ("severity", .string d.severity.name),
    ("phase", .string d.phase),
    ("message", .string d.message),
    ("location", (d.location.map Json.string).getD .null)]

end Diagnostic
end Pagewright
