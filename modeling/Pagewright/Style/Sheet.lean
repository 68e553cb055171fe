/-
# Style sheets

An ordered list of CSS rules. Selectors may repeat: two nodes of one type and id
each keep their own rule. The sheet of a component tree has one rule for every
node, in pre-order, whose adapted style is not empty.
-/

import Pagewright.Component.Basic
import Pagewright.Naming
import Pagewright.Style.Adapt

namespace Pagewright
namespace Style

/-- CSS rules in order, each a selector and its style map. -/
structure Sheet where
  rules : List (String × Dict String Json)
deriving DecidableEq

namespace Sheet

/-- The sheet without rules. -/
def empty : Sheet := ⟨[]⟩

instance : Inhabited Sheet := ⟨empty⟩

/-- The sheet with one more rule, after the others. -/
def addRule (s : Sheet) (selector : String) (styles : Dict String Json) : Sheet :=
  ⟨s.rules ++ [(selector, styles)]⟩

/-- The style map of the first rule with a selector. -/
def get? (s : Sheet) (selector : String) : Option (Dict String Json) := s.rules.lookup selector

/-- The number of rules. -/
def size (s : Sheet) : Nat := s.rules.length

/-- Whether there is no rule. -/
def isEmpty (s : Sheet) : Bool := s.rules.isEmpty

/-- A rule as CSS, its attributes in kebab-case. -/
def ruleText (rule : String × Dict String Json) : String :=
  rule.1 ++ " " ++ declarations Naming.kebabCase rule.2

/-- The sheet as CSS, a blank line between rules. -/
def render (s : Sheet) : String := Text.join "\n\n" (s.rules.map ruleText)

/-- The rules of style maps under their selectors, adapted to a platform; a map
of which nothing is left has no rule. -/
def ofStyles (p : Platform) (styles : List (String × Dict String Json)) : Sheet :=
  ⟨(styles.map fun e => (e.1, adapt p e.2)).filter fun e => !e.2.isEmpty⟩

end Sheet

/-- The class selector of a node, made of its type in lower case and its id. -/
def classSelector (c : Component) : String := "." ++ Text.lowercase c.type ++ "-" ++ c.id

/-- The sheet of a component tree on a platform. -/
def Sheet.ofTree (p : Platform) (root : Component) : Sheet :=
  .ofStyles p (root.descendants.map fun c => (classSelector c, c.style))

/-- The warnings for the attributes that a platform drops from a component tree. -/
def droppedInTree (p : Platform) (root : Component) : List Diagnostic :=
  root.descendants.flatMap fun c => droppedIn p c.style

end Style
end Pagewright
