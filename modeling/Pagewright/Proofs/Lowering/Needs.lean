/-
# What the nodes of a tree import

A node needs a name of a module when the rule for its type is for that tag of that
module; a node with an intrinsic rule needs nothing. Visiting a node collects what it
needs and nothing else (`hasName_visit`), so after nodes of any number exactly the
names are collected that one of them needs (`hasName_foldl_visit`).
-/

import Pagewright.Proofs.Imports.Symbols
import Pagewright.Proofs.Lowering.Parts

namespace Pagewright
namespace Lowering

/-- A node is lowered to a tag that is imported from a module. -/
def Needs (r : Registry) (p : Platform) (c : Component) (module name : String) : Prop :=
  ∃ rule, r.get? c.type p = some rule ∧ rule.isIntrinsic = false ∧ rule.importPath = module ∧
    rule.tag = name

variable {r : Registry} {p : Platform}

/-- **One node:** what it needs is collected, and nothing else. -/
theorem hasName_visit {context : Context} {c : Component} {module name : String} :
    (visit r p context c).imports.hasName module name ↔
      Needs r p c module name ∨ context.imports.hasName module name := by
  unfold visit Needs
  cases hr : r.get? c.type p with
  | none => simp
  | some rule =>
    cases hi : rule.isIntrinsic with
    | true => simp [collect, hi, Context.report]
    | false =>
      simp only [collect, hi, Context.report, Context.useTag, Bool.false_eq_true, if_false,
        Imports.hasName_add, Option.some.injEq, exists_eq_left', true_and]
      rw [eq_comm (a := module), eq_comm (a := name)]

/-- **Nodes one after the other:** what one of them needs is collected. -/
theorem hasName_foldl_visit {context : Context} {nodes : List Component} {module name : String} :
    (nodes.foldl (visit r p) context).imports.hasName module name ↔
      (∃ c ∈ nodes, Needs r p c module name) ∨ context.imports.hasName module name := by
  induction nodes generalizing context with
  | nil => simp
  | cons c nodes ih =>
    rw [List.foldl_cons, ih, hasName_visit, List.exists_mem_cons_iff, or_left_comm, or_assoc]

/-- **A whole tree:** exactly what its nodes need is collected. -/
theorem hasName_tree {root : Component} {module name : String} :
    (root.descendants.foldl (visit r p) .empty).imports.hasName module name ↔
      ∃ c ∈ root.descendants, Needs r p c module name := by
  rw [hasName_foldl_visit]
  exact or_iff_left (by simp [Context.empty])

end Lowering
end Pagewright
