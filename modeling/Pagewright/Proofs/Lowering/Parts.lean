/-
# Lowering, taken apart

Lowering hands a context from node to node of a recursion that stops at the first
node without a rule. It comes apart into three things that do not depend on each
other, all of them over the nodes in pre-order (`lowerNode_eq`):

* a search for the first node whose type has no rule (`firstUnsupported?`), which
  decides whether lowering fails and with what;
* the markup of the tree (`markup`), each node by its own rule;
* what is collected, one node after the other (`visit`).
-/

import Pagewright.Markup.Lowering
import Pagewright.Proofs.Component.Traversal

namespace Pagewright
namespace Lowering

open Component (descendants descendantsOfAll descendants_eq)

/-- The first of some nodes whose type has no rule for a platform. -/
def firstUnsupported? (r : Registry) (p : Platform) (nodes : List Component) :
    Option Component :=
  nodes.find? fun c => (r.get? c.type p).isNone

/-- What is collected once a node is lowered, its children aside. -/
def visit (r : Registry) (p : Platform) (context : Context) (c : Component) : Context :=
  match r.get? c.type p with
  | some rule => collect context p rule (renameStyles c.style rule p)
  | none => context

mutual

/-- The markup of a tree in which every type has a rule. -/
def markup (r : Registry) (p : Platform) : Component → Markup
  | ⟨_, type, _, props, style, children⟩ =>
    match r.get? type p with
    | some rule =>
      build p rule (lowerProps props rule) (renameStyles style rule p) (markupOfAll r p children)
    | none => default

/-- The markup of several trees. -/
def markupOfAll (r : Registry) (p : Platform) : List Component → List Markup
  | [] => []
  | c :: cs => markup r p c :: markupOfAll r p cs

end

variable {r : Registry} {p : Platform}

/-- No node is unsupported exactly if each has a rule. -/
theorem firstUnsupported?_eq_none_iff {nodes : List Component} :
    firstUnsupported? r p nodes = none ↔ ∀ c ∈ nodes, (r.get? c.type p).isSome := by
  rw [firstUnsupported?, List.find?_eq_none]
  simp only [Option.isSome_iff_ne_none, Option.isNone_iff_eq_none, ne_eq]

/-- A tree of one node that has a rule is supported. -/
theorem isSome_of_single {root : Component} (hroot : root.children = []) {rule : Mapping.Rule}
    (hr : r.get? root.type p = some rule) :
    ∀ c ∈ root.descendants, (r.get? c.type p).isSome := by
  intro c hc
  rw [descendants_eq, hroot, descendantsOfAll, List.mem_singleton] at hc
  rw [hc, hr]
  rfl

/-- A node without a rule is the first one. -/
theorem firstUnsupported?_cons_of_none {c : Component} (h : r.get? c.type p = none)
    (l : List Component) : firstUnsupported? r p (c :: l) = some c :=
  List.find?_cons_of_pos (by rw [h]; rfl)

/-- A node with a rule is passed over. -/
theorem firstUnsupported?_cons_of_some {c : Component} {rule : Mapping.Rule}
    (h : r.get? c.type p = some rule) (l : List Component) :
    firstUnsupported? r p (c :: l) = firstUnsupported? r p l :=
  List.find?_cons_of_neg (by rw [h]; exact Bool.false_ne_true)

/-- An unsupported node is looked for among the former nodes before the latter. -/
theorem firstUnsupported?_append (l l' : List Component) :
    firstUnsupported? r p (l ++ l') = (firstUnsupported? r p l).or (firstUnsupported? r p l') :=
  List.find?_append

mutual

/-- **Lowering a tree** fails for the first node in pre-order whose type has no rule. Where
there is none, it gives the markup of the tree and what its nodes add to the context. -/
theorem lowerNode_eq (context : Context) : ∀ c : Component,
    lowerNode r p context c =
      match firstUnsupported? r p c.descendants with
      | some bad => .error (.unsupported bad.type p)
      | none => .ok (markup r p c, c.descendants.foldl (visit r p) context)
  | ⟨id, type, name, props, style, children⟩ => by
    rw [lowerNode, descendants, List.foldl_cons, markup]
    cases h : r.get? type p with
    | none => rw [firstUnsupported?_cons_of_none h]
    | some rule =>
      have hv : visit r p context ⟨id, type, name, props, style, children⟩ =
          collect context p rule (renameStyles style rule p) := by
        simp only [visit, h]
      rw [firstUnsupported?_cons_of_some h, hv]
      simp only [lowerAll_eq _ children]
      cases firstUnsupported? r p (descendantsOfAll children) <;> rfl

/-- **Trees are lowered** unless one of their nodes has no rule, and the first such node fails. -/
theorem lowerAll_eq (context : Context) : ∀ cs : List Component,
    lowerAll r p context cs =
      match firstUnsupported? r p (descendantsOfAll cs) with
      | some bad => .error (.unsupported bad.type p)
      | none => .ok (markupOfAll r p cs, (descendantsOfAll cs).foldl (visit r p) context)
  | [] => rfl
  | c :: cs => by
    rw [lowerAll, descendantsOfAll, firstUnsupported?_append, List.foldl_append, markupOfAll,
      lowerNode_eq context c]
    cases firstUnsupported? r p c.descendants with
    | some bad => rfl
    | none =>
      simp only [lowerAll_eq _ cs, Option.none_or]
      cases firstUnsupported? r p (descendantsOfAll cs) <;> rfl

end

/-- A node has the tag of its rule, in front of the tags below it. -/
theorem tagNames_build (rule : Mapping.Rule) (props : Dict String PropValue)
    (styles : Dict String Json) (children : List Markup) :
    (build p rule props styles children).tagNames =
      rule.tag :: Markup.tagNamesOfAll children := by
  unfold build
  cases ownText? props <;> cases rule.isIntrinsic <;>
    simp [Markup.tagNames, Markup.tagNamesOfAll, Markup.ofText]

/-- The tag that a node is lowered to. -/
def tag? (r : Registry) (p : Platform) (c : Component) : Option String :=
  (r.get? c.type p).map (·.tag)

mutual

/-- **The tags of the markup** are the tags of the rules of its nodes, in pre-order. -/
theorem tagNames_markup : ∀ c : Component, (∀ d ∈ c.descendants, (r.get? d.type p).isSome) →
    (markup r p c).tagNames = c.descendants.filterMap (tag? r p)
  | ⟨id, type, name, props, style, children⟩, h => by
    rw [descendants, List.forall_mem_cons] at h
    obtain ⟨rule, hr⟩ := Option.isSome_iff_exists.1 h.1
    rw [markup, descendants, List.filterMap_cons, tag?, hr, Option.map_some]
    simp only
    rw [tagNames_build, tagNames_markupOfAll children h.2]

/-- The tags in the markup of trees are those of their nodes, in order. -/
theorem tagNames_markupOfAll : ∀ cs : List Component,
    (∀ d ∈ descendantsOfAll cs, (r.get? d.type p).isSome) →
      Markup.tagNamesOfAll (markupOfAll r p cs) = (descendantsOfAll cs).filterMap (tag? r p)
  | [], _ => rfl
  | c :: cs, h => by
    rw [descendantsOfAll, List.forall_mem_append] at h
    rw [markupOfAll, Markup.tagNamesOfAll, descendantsOfAll, List.filterMap_append,
      tagNames_markup c h.1, tagNames_markupOfAll cs h.2]

end

end Lowering
end Pagewright
