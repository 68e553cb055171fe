/-
# The shape of lowered markup

Markup has the shape of the tree it is lowered from (`Mirrors`). A node of the tree becomes a node
of the markup with the tag of its rule, and the children of the node become its children, in order.
A text that the rule leaves under `children` moves: it goes out of the props and stands as a text
node in front of the children (`NodeOf.content`).

| props under the rule | props of the markup node | children |
| --- | --- | --- |
| a string `s` under `children` | the others, in order | the text `s`, then the lowered children |
| anything else there, or nothing | all of them | the lowered children |

This says all there is to say about the markup: a tree with a rule for every node mirrors in exactly
one, the one it is lowered to (`exists_lower_iff_mirrors`), and a tree with another node in none.
-/

import Pagewright.Proofs.Lowering.Collected

namespace Pagewright
namespace Lowering

open Component (descendants descendantsOfAll preorder preorder_eq_descendants)

/-- What a rule makes of a node whose children are lowered. -/
structure NodeOf (p : Platform) (rule : Mapping.Rule) (c : Component) (lowered : List Markup)
    (m : Markup) : Prop where
  tag : m.tag = rule.tag
  kind : m.kind = if rule.importPath = "" then .element else .component
  text : m.text = none
  styles : m.styles = Style.adapt p (renameStyles c.style rule p)
  /-- A string under `children` becomes a text node in front of the children. -/
  content :
    (∃ s, (lowerProps c.props rule).get? "children" = some (.literal (.string s)) ∧
      m.props.entries = (lowerProps c.props rule).entries.filter (fun e => e.1 ≠ "children") ∧
      m.children = Markup.ofText s :: lowered) ∨
    ((∀ s, (lowerProps c.props rule).get? "children" ≠ some (.literal (.string s))) ∧
      m.props = lowerProps c.props rule ∧ m.children = lowered)

/-- Markup has the shape of a tree, each node made by the rule for its type. -/
inductive Mirrors (r : Registry) (p : Platform) : Component → Markup → Prop
  | node {c : Component} {m : Markup} {rule : Mapping.Rule} {lowered : List Markup}
      (rule_eq : r.get? c.type p = some rule)
      (children : List.Forall₂ (Mirrors r p) c.children lowered)
      (node : NodeOf p rule c lowered m) : Mirrors r p c m

variable {r : Registry} {p : Platform}

/-! ## One node -/

/-- The text of props is the string literal under `children`. -/
theorem ownText?_eq_some_iff {props : Dict String PropValue} {s : String} :
    ownText? props = some s ↔ props.get? "children" = some (.literal (.string s)) := by
  rw [ownText?, Option.bind_eq_some_iff]
  constructor
  · rintro ⟨v, hv, htext⟩
    unfold PropValue.text? at htext
    split at htext
    · cases htext
      exact hv
    · cases htext
  · intro h
    exact ⟨_, h, rfl⟩

/-- A node has no text of its own exactly if the prop `children` is no text. -/
theorem ownText?_eq_none_iff {props : Dict String PropValue} :
    ownText? props = none ↔ ∀ s, props.get? "children" ≠ some (.literal (.string s)) := by
  simp only [Option.eq_none_iff_forall_ne_some, ne_eq, ownText?_eq_some_iff]

/-- **A rule makes one node** of a node whose children are lowered. -/
theorem nodeOf_iff {rule : Mapping.Rule} {c : Component} {lowered : List Markup} {m : Markup} :
    NodeOf p rule c lowered m ↔
      m = build p rule (lowerProps c.props rule) (renameStyles c.style rule p) lowered := by
  have hkind : (if rule.importPath = "" then Markup.Kind.element else .component) =
      if rule.isIntrinsic then .element else .component := by
    simp [Mapping.Rule.isIntrinsic]
  constructor
  · rintro ⟨htag, hmkind, hmtext, hstyles, hcontent⟩
    obtain ⟨kind, tag, props, styles, text, children⟩ := m
    dsimp only at htag hmkind hmtext hstyles hcontent
    subst htag hmkind hmtext hstyles
    rw [build]
    rcases hcontent with ⟨s, hs, hprops, rfl⟩ | ⟨hnone, rfl, rfl⟩
    · obtain rfl : props = (lowerProps c.props rule).erase childrenProp := Dict.ext_entries hprops
      rw [ownText?_eq_some_iff.2 hs, hkind]
    · rw [ownText?_eq_none_iff.2 hnone, hkind]
  · rintro rfl
    unfold build
    dsimp only
    cases htext : ownText? (lowerProps c.props rule) with
    | some s =>
      exact ⟨rfl, hkind.symm, rfl, rfl, .inl ⟨s, ownText?_eq_some_iff.1 htext, rfl, rfl⟩⟩
    | none => exact ⟨rfl, hkind.symm, rfl, rfl, .inr ⟨ownText?_eq_none_iff.1 htext, rfl, rfl⟩⟩

/-! ## The tree -/

mutual

/-- **The markup of a tree mirrors it,** where every node has a rule. -/
theorem mirrors_markup : ∀ c : Component, (∀ d ∈ c.descendants, (r.get? d.type p).isSome) →
    Mirrors r p c (markup r p c)
  | ⟨id, type, name, props, style, children⟩, h => by
    rw [descendants, List.forall_mem_cons] at h
    obtain ⟨rule, hr⟩ := Option.isSome_iff_exists.1 h.1
    have hchildren := mirrors_markupOfAll children h.2
    refine .node hr hchildren (nodeOf_iff.2 ?_)
    rw [markup, hr]

/-- The markup of supported trees has the shape of these trees. -/
theorem mirrors_markupOfAll : ∀ cs : List Component,
    (∀ d ∈ descendantsOfAll cs, (r.get? d.type p).isSome) →
      List.Forall₂ (Mirrors r p) cs (markupOfAll r p cs)
  | [], _ => .nil
  | c :: cs, h => by
    rw [descendantsOfAll, List.forall_mem_append] at h
    exact .cons (mirrors_markup c h.1) (mirrors_markupOfAll cs h.2)

end

mutual

/-- **No other markup mirrors a tree,** and none a tree with a node that has no rule. -/
theorem Mirrors.eq_markup : ∀ (c : Component) (m : Markup), Mirrors r p c m →
    (∀ d ∈ c.descendants, (r.get? d.type p).isSome) ∧ m = markup r p c
  | ⟨id, type, name, props, style, children⟩, m, .node hr hchildren hnode => by
    obtain ⟨hsome, rfl⟩ := eq_markupOfAll children _ hchildren
    constructor
    · rw [descendants, List.forall_mem_cons]
      exact ⟨Option.isSome_iff_exists.2 ⟨_, hr⟩, hsome⟩
    · dsimp only at hr
      rw [nodeOf_iff.1 hnode, markup, hr]

/-- Only their markup has the shape of trees, and only of supported ones. -/
theorem eq_markupOfAll : ∀ (cs : List Component) (ms : List Markup),
    List.Forall₂ (Mirrors r p) cs ms →
      (∀ d ∈ descendantsOfAll cs, (r.get? d.type p).isSome) ∧ ms = markupOfAll r p cs
  | [], [], _ => ⟨by simp [descendantsOfAll], rfl⟩
  | c :: cs, m :: ms, .cons h hs => by
    obtain ⟨hc, rfl⟩ := Mirrors.eq_markup c m h
    obtain ⟨hcs, rfl⟩ := eq_markupOfAll cs ms hs
    rw [descendantsOfAll, List.forall_mem_append]
    exact ⟨⟨hc, hcs⟩, rfl⟩

end

/-- **A tree is lowered** exactly to the markup that has its shape. -/
theorem exists_lower_iff_mirrors {root : Component} {m : Markup} :
    (∃ context, lower r p root = .ok (m, context)) ↔ Mirrors r p root m := by
  constructor
  · rintro ⟨context, h⟩
    obtain ⟨hsome, rfl, -⟩ := lower_eq_ok_iff.1 h
    exact mirrors_markup root hsome
  · intro h
    obtain ⟨hsome, hm⟩ := h.eq_markup
    exact ⟨_, lower_eq_ok_iff.2 ⟨hsome, hm, rfl⟩⟩

/-! ## Text nodes and tags -/

/-- The text of a node is the only one that a rule adds. -/
theorem nodes_build (rule : Mapping.Rule) (props : Dict String PropValue)
    (styles : Dict String Json) (children : List Markup) :
    (build p rule props styles children).nodes =
      build p rule props styles children ::
        ((ownText? props).toList.map Markup.ofText ++ Markup.nodesOfAll children) := by
  unfold build
  cases ownText? props <;> rfl

/-- What a rule makes of a node is no text. -/
theorem isText_build (rule : Mapping.Rule) (props : Dict String PropValue)
    (styles : Dict String Json) (children : List Markup) :
    (build p rule props styles children).isText = false := by
  unfold build
  cases ownText? props <;> cases rule.isIntrinsic <;> rfl

mutual

/-- **A text node is nothing but its text.** -/
theorem eq_ofText_of_mem_nodes : ∀ (c : Component) (node : Markup), node ∈ (markup r p c).nodes →
    node.isText → node = Markup.ofText node.content
  | ⟨id, type, name, props, style, children⟩, node, hnode, htext => by
    rw [markup] at hnode
    cases hr : r.get? type p with
    | none =>
      rw [hr] at hnode
      obtain rfl := List.mem_singleton.1 hnode
      rfl
    | some rule =>
      rw [hr] at hnode
      dsimp only at hnode
      rw [nodes_build, List.mem_cons, List.mem_append] at hnode
      rcases hnode with rfl | hown | hchildren
      · rw [isText_build] at htext
        cases htext
      · obtain ⟨s, -, rfl⟩ := List.mem_map.1 hown
        rfl
      · exact eq_ofText_of_mem_nodesOfAll children node hchildren htext

/-- A text in the markup of trees has nothing but its content. -/
theorem eq_ofText_of_mem_nodesOfAll : ∀ (cs : List Component) (node : Markup),
    node ∈ Markup.nodesOfAll (markupOfAll r p cs) → node.isText →
      node = Markup.ofText node.content
  | c :: cs, node, hnode, htext => by
    rw [markupOfAll, Markup.nodesOfAll, List.mem_append] at hnode
    rcases hnode with hnode | hnode
    · exact eq_ofText_of_mem_nodes c node hnode htext
    · exact eq_ofText_of_mem_nodesOfAll cs node hnode htext

end

/-- Where every node has a rule, each has a tag. -/
theorem map_some_filterMap_tag? {nodes : List Component}
    (h : ∀ c ∈ nodes, (r.get? c.type p).isSome) :
    (nodes.filterMap (tag? r p)).map some = nodes.map (tag? r p) := by
  induction nodes with
  | nil => rfl
  | cons c nodes ih =>
    rw [List.forall_mem_cons] at h
    obtain ⟨rule, hr⟩ := Option.isSome_iff_exists.1 h.1
    have htag : tag? r p c = some rule.tag := by rw [tag?, hr, Option.map_some]
    rw [List.filterMap_cons_some htag, List.map_cons, List.map_cons, ih h.2, htag]

/-- **The shape of lowered markup.** What a tree is lowered to mirrors the tree, and nothing else
does: node by node it has the tag of the rule, it is an element exactly if the rule has no import
and else a component, and its children are those of the node, lowered, behind the text that the
rule leaves under `children`, if any. A text node has no tag, props, styles or children. So the
tags of the markup are those of the rules for the nodes, one for each, in the order in which a
stack yields them. -/
theorem lower_mirrors {root : Component} {m : Markup} {context : Context}
    (h : lower r p root = .ok (m, context)) :
    Mirrors r p root m ∧ (∀ m', Mirrors r p root m' → m' = m) ∧
    (∀ node ∈ m.nodes, node.isText →
      node.tag = "" ∧ node.props = ∅ ∧ node.styles = ∅ ∧ node.children = []) ∧
    m.tagNames.map some = root.preorder.map (tag? r p) := by
  obtain ⟨hsome, rfl, -⟩ := lower_eq_ok_iff.1 h
  refine ⟨mirrors_markup root hsome, fun m' hm' => (hm'.eq_markup).2,
    fun node hnode htext => ?_, ?_⟩
  · rw [eq_ofText_of_mem_nodes root node hnode htext]
    exact ⟨rfl, rfl, rfl, rfl⟩
  · rw [tagNames_markup root hsome, map_some_filterMap_tag? hsome, preorder_eq_descendants]

/-- A container with a text that is empty, a line and a button whose label is code. -/
def labelRoot : Component :=
  { Component.leaf "root" "Container" with
    children := [
      (Component.leaf "title" "Text").withProp "content" (.literal (.string "")),
      .leaf "line" "Divider",
      (Component.leaf "go" "Button").withProp "children" (.expression "label")] }

/-- The hypothesis of `lower_mirrors` is satisfiable: the empty text is a node all the same, and the
code stays in the props of the button. -/
theorem labelRoot_mirrors :
    ∃ m context, lower .standard .h5 labelRoot = .ok (m, context) ∧
      Mirrors .standard .h5 labelRoot m ∧
      m.tagNames = ["View", "Text", "hr", "Button"] ∧
      (m.nodes.map fun node => (node.isText, node.props.keys)) =
        [(false, []), (false, []), (true, []), (false, []), (false, ["children"])] := by
  have hsome : ∀ c ∈ labelRoot.descendants, (Registry.standard.get? c.type .h5).isSome := by
    decide
  have hlower := lower_eq_ok_iff.2 ⟨hsome, rfl, rfl⟩
  obtain ⟨hmirrors, -, -, htags⟩ := lower_mirrors hlower
  have hpreorder : labelRoot.preorder.map (tag? .standard .h5) =
      ["View", "Text", "hr", "Button"].map some := by
    rw [preorder_eq_descendants]
    decide
  refine ⟨_, _, hlower, hmirrors, ?_, by decide⟩
  exact List.map_injective_iff.2 (fun _ _ => Option.some.inj) (htags.trans hpreorder)

end Lowering
end Pagewright
