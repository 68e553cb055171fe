/-
# Making the style sheet of a tree in one pass

The sheet of a tree can be made while a stack yields the nodes of the tree, one after the
other. A node without attributes is passed over. Of any other node the style map is
adapted, which reports what the platform drops, and a rule is added unless nothing is left:

| node | rule | reported |
| --- | --- | --- |
| without attributes | none | nothing |
| with unsupported attributes only | none | each of them |
| any other | the adapted style map | the unsupported ones |

The pass ends with the sheet of the tree and with the warnings for all that the platform
drops from the tree (`sheetPass_eq`).
-/

import Pagewright.Proofs.Component.Traversal
import Pagewright.Style.Sheet

namespace Pagewright
namespace Style

/-- What a node adds to a sheet and to the findings. -/
def sheetStep (p : Platform) (made : Sheet × List Diagnostic) (c : Component) :
    Sheet × List Diagnostic :=
  if c.style.isEmpty then made
  else
    let adapted := adapt p c.style
    let found := made.2 ++ droppedIn p c.style
    if adapted.isEmpty then (made.1, found) else (made.1.addRule (classSelector c) adapted, found)

/-- The sheet of a tree and what is reported on the way, made node by node. -/
def sheetPass (p : Platform) (root : Component) : Sheet × List Diagnostic :=
  root.preorder.foldl (sheetStep p) (.empty, [])

/-- The rule of a node, from the style map that the platform gets for it. -/
def ruleOf? (selector : String) (adapted : Dict String Json) :
    Option (String × Dict String Json) :=
  if adapted.isEmpty then none else some (selector, adapted)

variable {p : Platform}

/-- A style map without entries is the empty one. -/
theorem eq_empty_of_isEmpty {styles : Dict String Json} (h : styles.isEmpty) : styles = ∅ := by
  have hentries : styles.entries = [] := by simpa [Dict.isEmpty] using h
  exact Dict.ext_entries hentries

/-- **One node** adds its rule, if it has one, and reports what is dropped of it. The check for
a node without attributes decides nothing: an empty style map stays empty and loses
nothing. -/
theorem sheetStep_eq (made : Sheet × List Diagnostic) (c : Component) :
    sheetStep p made c =
      (⟨made.1.rules ++ (ruleOf? (classSelector c) (adapt p c.style)).toList⟩,
        made.2 ++ droppedIn p c.style) := by
  unfold sheetStep ruleOf?
  by_cases hempty : c.style.isEmpty
  · have hadapt : adapt p (∅ : Dict String Json) = ∅ := rfl
    have hdropped : droppedIn p (∅ : Dict String Json) = [] := rfl
    have hnone : (∅ : Dict String Json).isEmpty := rfl
    rw [eq_empty_of_isEmpty hempty, hadapt, hdropped, if_pos hnone, if_pos hnone]
    simp
  · rw [if_neg hempty]
    by_cases hleft : (adapt p c.style).isEmpty
    · simp [hleft]
    · simp [hleft, Sheet.addRule]

/-- **Nodes one after the other** add their rules and their findings in this order. -/
theorem foldl_sheetStep (made : Sheet × List Diagnostic) (nodes : List Component) :
    nodes.foldl (sheetStep p) made =
      (⟨made.1.rules ++ nodes.filterMap fun c => ruleOf? (classSelector c) (adapt p c.style)⟩,
        made.2 ++ nodes.flatMap fun c => droppedIn p c.style) := by
  induction nodes generalizing made with
  | nil => simp
  | cons c nodes ih =>
    rw [List.foldl_cons, ih, sheetStep_eq]
    cases hrule : ruleOf? (classSelector c) (adapt p c.style) <;> simp [hrule]

/-- **The rules of a tree** are those of its nodes that keep an attribute, in pre-order. -/
theorem rules_ofTree (root : Component) :
    (Sheet.ofTree p root).rules =
      root.descendants.filterMap fun c => ruleOf? (classSelector c) (adapt p c.style) := by
  unfold Sheet.ofTree Sheet.ofStyles
  induction root.descendants with
  | nil => rfl
  | cons c nodes ih =>
    simp only [List.map_cons, List.filter_cons, List.filterMap_cons] at ih ⊢
    rw [← ih]
    cases hempty : (adapt p c.style).isEmpty <;> simp [ruleOf?, hempty]

/-- **The pass makes the sheet of the tree,** and reports what the platform drops from it. -/
theorem sheetPass_eq (root : Component) :
    sheetPass p root = (Sheet.ofTree p root, droppedInTree p root) := by
  have hrules : (⟨root.descendants.filterMap fun c =>
      ruleOf? (classSelector c) (adapt p c.style)⟩ : Sheet) = Sheet.ofTree p root :=
    congrArg Sheet.mk (rules_ofTree root).symm
  rw [sheetPass, Component.preorder_eq_descendants, foldl_sheetStep]
  exact congrArg (·, droppedInTree p root) hrules

end Style
end Pagewright
