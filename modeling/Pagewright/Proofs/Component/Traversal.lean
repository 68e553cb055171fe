/-
# Visiting a tree with a stack

The nodes of a tree can be visited without recursion: a stack holds the nodes that
are still to come, its top in front. The top is visited and its children take its
place, the first child on top. Every step takes one node off the nodes below the
stack, so the visit ends; it yields the nodes in depth-first pre-order, as the
recursion over the tree does (`preorder_eq_descendants`): a node, and then its
children with all below them (`preorder_eq`).
-/

import Pagewright.Component.Basic

namespace Pagewright
namespace Component

/-- A node comes before what is below it. -/
theorem descendants_eq (c : Component) :
    c.descendants = c :: descendantsOfAll c.children := by
  cases c
  rfl

/-- The nodes of several trees are those of each, in order. -/
theorem descendantsOfAll_eq_flatMap (l : List Component) :
    descendantsOfAll l = l.flatMap descendants := by
  induction l with
  | nil => rfl
  | cons c l ih => rw [descendantsOfAll, ih, List.flatMap_cons]

/-- The nodes of trees and more trees are those of the former and then of the latter. -/
theorem descendantsOfAll_append (l l' : List Component) :
    descendantsOfAll (l ++ l') = descendantsOfAll l ++ descendantsOfAll l' := by
  simp only [descendantsOfAll_eq_flatMap, List.flatMap_append]

/-- The nodes that are visited when `stack` is still to come. -/
def visitStack : List Component → List Component
  | [] => []
  | c :: stack => c :: visitStack (c.children ++ stack)
termination_by stack => (descendantsOfAll stack).length
decreasing_by
  rw [descendantsOfAll, descendants_eq, descendantsOfAll_append]
  simp only [List.cons_append, List.length_cons]
  omega

/-- The nodes of a tree in the order in which a stack yields them. -/
def preorder (c : Component) : List Component := visitStack [c]

/-- **Visiting from a stack** takes the nodes below its members, from the top down. -/
theorem visitStack_eq (stack : List Component) : visitStack stack = descendantsOfAll stack := by
  induction stack using visitStack.induct with
  | case1 => rw [visitStack, descendantsOfAll]
  | case2 c stack ih =>
    rw [visitStack, ih, descendantsOfAll, descendants_eq, descendantsOfAll_append,
      List.cons_append]

/-- **The stack yields the tree in pre-order.** -/
theorem preorder_eq_descendants (c : Component) : c.preorder = c.descendants := by
  rw [preorder, visitStack_eq, descendantsOfAll, descendantsOfAll, List.append_nil]

/-- **Pre-order:** a node stands in front of its children, and these with all below them one after
the other. -/
theorem preorder_eq (c : Component) : c.preorder = c :: c.children.flatMap preorder := by
  have hfun : preorder = descendants := funext preorder_eq_descendants
  rw [hfun, descendants_eq, descendantsOfAll_eq_flatMap]

end Component
end Pagewright
