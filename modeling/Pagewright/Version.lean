/-
# Versions

A version is written `major.minor.patch`, three numbers below `2 ^ 32`,
optionally followed by a dash and a pre-release tag. The tag begins at the
first dash and may hold any characters, dashes and dots too, but is not empty.
A number may be written with leading zeros and one plus sign.

The faults are looked for in this order: an empty tag, a count of components
other than three, and then the components from left to right.
-/

import Pagewright.Text.Digit
import Pagewright.Text.Search

namespace Pagewright

/-- A project version. -/
structure Version where
  major : UInt32
  minor : UInt32
  patch : UInt32
  pre : Option String
deriving DecidableEq, Inhabited

namespace Version

/-- The component of a version that is no number. -/
inductive Component where
  | major
  | minor
  | patch
deriving DecidableEq

/-- Why a text is no version. -/
inductive Fault where
  | emptyTag (text : String)
  | shape (text : String)
  | component (which : Component) (text : String)
deriving DecidableEq

/-- The name of a component. -/
def Component.name : Component → String
  | .major => "major"
  | .minor => "minor"
  | .patch => "patch"

/-- The message of a fault. -/
def Fault.message : Fault → String
  | .emptyTag s => "invalid version '" ++ s ++ "', empty pre-release tag"
  | .shape s => "invalid version '" ++ s ++ "', expected 'X.Y.Z'"
  | .component c s => "invalid " ++ c.name ++ " component in version '" ++ s ++ "'"

/-- A release version. -/
def release (major minor patch : UInt32) : Version := ⟨major, minor, patch, none⟩

/-- The version that a project has unless it declares one. -/
def initial : Version := release 0 1 0

/-- The version `0.0.0`. -/
def zero : Version := release 0 0 0

/-- The version with a pre-release tag. -/
def withPre (v : Version) (tag : String) : Version := { v with pre := some tag }

/-- Whether the version has a pre-release tag. -/
def isPrerelease (v : Version) : Bool := v.pre.isSome

/-- The text of a version. -/
def toText (v : Version) : String :=
  toString v.major.toNat ++ "." ++ toString v.minor.toNat ++ "." ++ toString v.patch.toNat ++
    (match v.pre with
      | some tag => "-" ++ tag
      | none => "")

/-- A number below `2 ^ 32`, with an optional plus sign. -/
def number? (s : List Char) : Option UInt32 :=
  let digits :=
    match s with
    | '+' :: rest => rest
    | _ => s
  if digits.isEmpty || !digits.all Char.isDigit then none
  else if Text.ofDigits digits < UInt32.size then some (UInt32.ofNat (Text.ofDigits digits))
  else none

/-- The version that a text denotes. -/
def parse (s : String) : Except Fault Version :=
  let read (core : List Char) (pre : Option String) : Except Fault Version :=
    match Text.splitWhere (· == '.') core with
    | [a, b, c] => do
      let component (which : Component) (part : List Char) : Except Fault UInt32 :=
        match number? part with
        | some n => .ok n
        | none => .error (.component which s)
      let major ← component .major a
      let minor ← component .minor b
      let patch ← component .patch c
      pure ⟨major, minor, patch, pre⟩
    | _ => .error (.shape s)
  match Text.splitFirst? '-' s.toList with
  | some (_, []) => .error (.emptyTag s)
  | some (core, tag) => read core (some (String.ofList tag))
  | none => read s.toList none

end Version
end Pagewright
