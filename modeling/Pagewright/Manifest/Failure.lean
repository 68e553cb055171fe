/-
# Why a project cannot be read

A manifest or page file may be unreadable, malformed, or well formed but refused.
What is refused in a manifest is marked in its text where it can be found.
-/

import Pagewright.Manifest.Name

namespace Pagewright
namespace Manifest

/-- A stretch of a text, in bytes. -/
structure Span where
  offset : Nat
  length : Nat
deriving DecidableEq

/-- Why a manifest or a page cannot be read. -/
inductive Failure where
  | unreadable (path : String)
  | malformed
  | malformedPage (offset : Option Nat)
  | projectName (name : String) (fault : PackageFault) (span : Option Span)
  | noRules (path : String)
  | emptyName (path : String)
  | unnamedPage
  | reserved (name context : String) (span : Option Span)
  | badName (name context : String) (fault : NameFault) (span : Option Span)
deriving DecidableEq

namespace Failure

/-- The message. -/
def message : Failure → String
  | .unreadable path => "failed to read '" ++ path ++ "'"
  | .malformed => "failed to parse lowgen.toml"
  | .malformedPage _ => "failed to parse page file"
  | .projectName name fault _ => "invalid project name '" ++ name ++ "': " ++ fault.message
  | .noRules path => "component '" ++ path ++ "' declares no platform rules"
  | .emptyName path => "rule in '" ++ path ++ "' has an empty source or target"
  | .unnamedPage => "page name cannot be empty"
  | .reserved name _ _ => "'" ++ name ++ "' is a reserved JavaScript word"
  | .badName name context _ _ => "invalid " ++ context ++ " '" ++ name ++ "'"

/-- How the failure can be mended. -/
def help? : Failure → Option String
  | .unreadable _ => some "run 'lowgen init <name>' to create a new project"
  | .malformedPage _ =>
    some "page files are JSON objects with a 'name' and a 'components' tree"
  | .reserved name context _ =>
    some ("rename '" ++ name ++ "', it cannot be used as a " ++ context)
  | .badName _ _ fault _ =>
    some (fault.message ++
      ". Use only letters, digits, '_' and '$', not starting with a digit.")
  | _ => none

/-- The code of the failure. -/
def code? : Failure → Option String
  | .malformed => some "lowgen::parse_error"
  | .malformedPage _ => some "lowgen::page_parse_error"
  | .projectName _ _ _ | .noRules _ | .emptyName _ | .unnamedPage =>
    some "lowgen::validation_error"
  | _ => none

/-- Where in the text the failure is. -/
def span? : Failure → Option Span
  | .malformedPage offset => offset.map fun k => ⟨k, 0⟩
  | .projectName _ _ span | .reserved _ _ span | .badName _ _ _ span => span
  | _ => none

/-- What is written beside the place in the text. -/
def label : Failure → String
  | .malformedPage _ => "invalid JSON here"
  | .reserved _ _ _ => "reserved word used here"
  | .badName _ _ _ _ => "invalid identifier"
  | f => f.message

end Failure
end Manifest
end Pagewright
