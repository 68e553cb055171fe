/-
# Why generation fails

A page cannot be generated without a component tree, nor when the type of a node
has no rule for the platform. The failure of a page names the platform it was
generated for and keeps its cause.
-/

import Pagewright.Platform

namespace Pagewright
namespace Generation

/-- Why a page cannot be generated. -/
inductive Failure where
  | unsupported (type : String) (platform : Platform)
  | treeless (page : String)
  | on (platform : Platform) (cause : Failure)
deriving DecidableEq

namespace Failure

/-- The innermost cause. -/
def root : Failure → Failure
  | .on _ cause => cause.root
  | f => f

/-- The message. -/
def message : Failure → String
  | .unsupported type p =>
    "component type '" ++ type ++ "' is not supported on platform '" ++ p.id ++ "'"
  | .treeless page => "page '" ++ page ++ "' has no component tree"
  | .on p _ => "code generation failed for platform '" ++ p.id ++ "'"

/-- How the failure can be mended. -/
def help? : Failure → Option String
  | .unsupported type p =>
    some ("add a mapping under [components." ++ type ++ "." ++ p.id ++ "] in lowgen.toml")
  | .treeless _ => some "add a root node under \"components\" in the page file"
  | .on _ _ => none

/-- The code of the failure. -/
def code : Failure → String
  | .unsupported _ _ => "lowgen::unsupported_component"
  | .treeless _ => "lowgen::missing_components"
  | .on _ _ => "lowgen::generation_error"

end Failure
end Generation
end Pagewright
