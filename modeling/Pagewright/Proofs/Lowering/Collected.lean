/-
# What lowering collects

The context that lowering hands through a tree ends up with what the nodes of the tree
need, whatever the shape of the tree (`lower_collects`):

| collected | what it is |
| --- | --- |
| names of a module | the tags of the nodes whose rule is for that module |
| modules | those of the nodes, by first use in pre-order |
| packages | those that the modules belong to |

A node with an intrinsic rule contributes nothing. The markup has a node for every node
of the tree, in the same order, and text between them (`realizes_markup`), so its
components are what the imports are for: each is imported of the module of its rule,
and each imported name is the tag of one.
-/

import Pagewright.Proofs.Lowering.Needs
import Mathlib.Data.List.Forall2

namespace Pagewright

/-- **Adding a package** adds its name and leaves the others. -/
theorem Dependencies.contains_add {d : Dependencies} {added package : String}
    {dependency : Dependency} :
    (d.add added dependency).contains package ↔ package = added ∨ d.contains package := by
  unfold add contains
  split
  · next h =>
    constructor
    · exact .inr
    · rintro (rfl | hc)
      · exact h
      · exact hc
  · rw [Dict.contains_iff, Dict.mem_keys_insert, Dict.contains_iff]

/-- **Adding the package of a path** adds what the path belongs to and leaves the others. -/
theorem Dependencies.contains_addPath {d : Dependencies} {path package : String} :
    (d.addPath path).contains package ↔
      packageName? path = some package ∨ d.contains package := by
  unfold addPath
  cases packageName? path with
  | none => simp
  | some added =>
    simp only [contains_add, Option.some.injEq]
    rw [eq_comm]

/-- The non-text nodes of a markup tree, in pre-order. -/
def Markup.elements (m : Markup) : List Markup := m.nodes.filter fun node => !node.isText

/-- The non-text nodes of several markup trees. -/
def Markup.elementsOfAll (ms : List Markup) : List Markup :=
  (nodesOfAll ms).filter fun node => !node.isText

namespace Lowering

open Component (descendants descendantsOfAll)

/-- The module that a node is imported of; none for an intrinsic node. -/
def module? (r : Registry) (p : Platform) (c : Component) : Option String :=
  (r.get? c.type p).bind fun rule => if rule.isIntrinsic then none else some rule.importPath

/-- The modules that nodes are imported of, each where it is needed first. -/
def modules (r : Registry) (p : Platform) (nodes : List Component) : List String :=
  (nodes.filterMap (module? r p)).eraseDups

variable {r : Registry} {p : Platform}

/-- A node needs a name of a module exactly if its rule says so and the module is not empty. -/
theorem needs_iff {c : Component} {module name : String} :
    Needs r p c module name ↔
      module ≠ "" ∧ ∃ rule, r.get? c.type p = some rule ∧ rule.importPath = module ∧
        rule.tag = name := by
  constructor
  · rintro ⟨rule, hr, hi, rfl, ht⟩
    exact ⟨by simpa [Mapping.Rule.isIntrinsic] using hi, rule, hr, rfl, ht⟩
  · rintro ⟨hm, rule, hr, rfl, ht⟩
    exact ⟨rule, hr, by simpa [Mapping.Rule.isIntrinsic] using hm, rfl, ht⟩

/-! ## One node and many -/

/-- **One node** adds its module behind the others, unless it is there. -/
theorem keys_visit_eq (context : Context) (c : Component) :
    (visit r p context c).imports.modules.keys =
      match module? r p c with
      | none => context.imports.modules.keys
      | some module =>
        if module ∈ context.imports.modules.keys then context.imports.modules.keys
        else context.imports.modules.keys ++ [module] := by
  unfold visit module?
  cases r.get? c.type p with
  | none => rfl
  | some rule =>
    cases hi : rule.isIntrinsic with
    | true => simp [collect, hi, Context.report]
    | false =>
      simp only [collect, hi, Context.report, Context.useTag, Bool.false_eq_true, if_false,
        Option.bind_some]
      exact Dict.keys_insert ..

/-- **One node** puts its module behind those of the nodes before it, unless it is there. -/
theorem keys_visit {context : Context} {before : List Component}
    (h : context.imports.modules.keys = modules r p before) (c : Component) :
    (visit r p context c).imports.modules.keys = modules r p (before ++ [c]) := by
  rw [keys_visit_eq, h, modules, modules, List.filterMap_append]
  cases hm : module? r p c with
  | none => rw [List.filterMap_cons_none hm, List.filterMap_nil, List.append_nil]
  | some module => rw [List.filterMap_cons_some hm, List.filterMap_nil, Dict.eraseDups_concat]

/-- **One node** adds the package of its module. -/
theorem contains_visit {context : Context} {c : Component} {package : String} :
    (visit r p context c).dependencies.contains package ↔
      (∃ module, module? r p c = some module ∧ packageName? module = some package) ∨
        context.dependencies.contains package := by
  unfold visit module?
  cases hr : r.get? c.type p with
  | none => simp
  | some rule =>
    cases hi : rule.isIntrinsic with
    | true => simp [collect, hi, Context.report]
    | false =>
      simp only [collect, hi, Context.report, Context.useTag, Bool.false_eq_true, if_false,
        Dependencies.contains_addPath, Option.bind_some, Option.some.injEq, exists_eq_left']

/-- **Nodes one after the other** add their modules by first use. -/
theorem keys_foldl_visit {context : Context} (before nodes : List Component)
    (h : context.imports.modules.keys = modules r p before) :
    (nodes.foldl (visit r p) context).imports.modules.keys = modules r p (before ++ nodes) := by
  induction nodes generalizing context before with
  | nil => rwa [List.append_nil]
  | cons c nodes ih =>
    rw [List.foldl_cons, ih _ (keys_visit h c), List.append_assoc, List.singleton_append]

/-- **Nodes one after the other** add the packages of their modules. -/
theorem contains_foldl_visit {context : Context} {nodes : List Component} {package : String} :
    (nodes.foldl (visit r p) context).dependencies.contains package ↔
      (∃ module ∈ modules r p nodes, packageName? module = some package) ∨
        context.dependencies.contains package := by
  simp only [modules, List.mem_eraseDups, List.mem_filterMap]
  induction nodes generalizing context with
  | nil => simp
  | cons c nodes ih =>
    rw [List.foldl_cons, ih, contains_visit]
    constructor
    · rintro (⟨module, ⟨d, hd, hm⟩, hp⟩ | ⟨module, hm, hp⟩ | h)
      · exact .inl ⟨module, ⟨d, .tail _ hd, hm⟩, hp⟩
      · exact .inl ⟨module, ⟨c, .head _, hm⟩, hp⟩
      · exact .inr h
    · rintro (⟨module, ⟨d, hd, hm⟩, hp⟩ | h)
      · rcases List.mem_cons.1 hd with rfl | hd
        · exact .inr (.inl ⟨module, hm, hp⟩)
        · exact .inl ⟨module, ⟨d, hd, hm⟩, hp⟩
      · exact .inr (.inr h)

/-! ## The markup, node for node -/

/-- A node of a tree is lowered to a node of the markup, whatever has been collected before. -/
def LoweredTo (r : Registry) (p : Platform) (c : Component) (m : Markup) : Prop :=
  ∀ context, ∃ after, lowerNode r p context c = .ok (m, after)

/-- A node of a supported tree is lowered to the markup made of it. -/
theorem loweredTo_markup {c : Component} (h : ∀ d ∈ c.descendants, (r.get? d.type p).isSome) :
    LoweredTo r p c (markup r p c) := by
  intro context
  rw [lowerNode_eq, firstUnsupported?_eq_none_iff.2 h]
  exact ⟨_, rfl⟩

/-- What a node is lowered to is its markup, and there is a rule for it. -/
theorem LoweredTo.eq_markup {c : Component} {m : Markup} (h : LoweredTo r p c m) :
    m = markup r p c ∧ (r.get? c.type p).isSome := by
  obtain ⟨after, hlower⟩ := h .empty
  rw [lowerNode_eq] at hlower
  cases hbad : firstUnsupported? r p c.descendants with
  | some bad => rw [hbad] at hlower; cases hlower
  | none =>
    rw [hbad] at hlower
    refine ⟨(Prod.mk.inj (Except.ok.inj hlower)).1.symm, ?_⟩
    refine firstUnsupported?_eq_none_iff.1 hbad c ?_
    rw [Component.descendants_eq]
    exact List.mem_cons_self ..

/-- The text of a node stands between the node and its children. -/
theorem elements_build (rule : Mapping.Rule) (props : Dict String PropValue)
    (styles : Dict String Json) (children : List Markup) :
    (build p rule props styles children).elements =
      build p rule props styles children :: Markup.elementsOfAll children := by
  unfold build
  cases ownText? props <;> cases rule.isIntrinsic <;>
    simp [Markup.elements, Markup.elementsOfAll, Markup.nodes, Markup.nodesOfAll, Markup.ofText,
      Markup.isText]

/-- The elements of several trees of markup are those of each, in order. -/
theorem elementsOfAll_cons (m : Markup) (ms : List Markup) :
    Markup.elementsOfAll (m :: ms) = m.elements ++ Markup.elementsOfAll ms :=
  List.filter_append ..

mutual

/-- **Node for node:** text aside, the nodes of the markup are what the nodes of the tree are
lowered to, in pre-order. -/
theorem loweredTo_elements : ∀ c : Component,
    (∀ d ∈ c.descendants, (r.get? d.type p).isSome) →
      List.Forall₂ (LoweredTo r p) c.descendants (markup r p c).elements
  | ⟨id, type, name, props, style, children⟩, h => by
    have hself := loweredTo_markup h
    rw [descendants, List.forall_mem_cons] at h
    obtain ⟨rule, hr⟩ := Option.isSome_iff_exists.1 h.1
    have hnode : markup r p ⟨id, type, name, props, style, children⟩ =
        build p rule (lowerProps props rule) (renameStyles style rule p)
          (markupOfAll r p children) := by
      rw [markup, hr]
    rw [hnode] at hself ⊢
    rw [elements_build, descendants]
    exact .cons hself (loweredTo_elementsOfAll children h.2)

/-- The elements of the markup of trees are what their nodes are lowered to, in order. -/
theorem loweredTo_elementsOfAll : ∀ cs : List Component,
    (∀ d ∈ descendantsOfAll cs, (r.get? d.type p).isSome) →
      List.Forall₂ (LoweredTo r p) (descendantsOfAll cs)
        (Markup.elementsOfAll (markupOfAll r p cs))
  | [], _ => .nil
  | c :: cs, h => by
    rw [descendantsOfAll, List.forall_mem_append] at h
    rw [markupOfAll, elementsOfAll_cons, descendantsOfAll]
    exact List.rel_append (loweredTo_elements c h.1) (loweredTo_elementsOfAll cs h.2)

end

/-- A markup node stands for a node of a tree: it has the tag of the rule for the node's type
and is a component exactly if that rule has an import. -/
def Realizes (r : Registry) (p : Platform) (c : Component) (node : Markup) : Prop :=
  ∃ rule, r.get? c.type p = some rule ∧ node.tag = rule.tag ∧
    (node.kind = .component ↔ rule.importPath ≠ "")

/-- What a node is lowered to stands for it. -/
theorem LoweredTo.realizes {c : Component} {m : Markup} (h : LoweredTo r p c m) :
    Realizes r p c m := by
  obtain ⟨rfl, hsome⟩ := h.eq_markup
  obtain ⟨rule, hr⟩ := Option.isSome_iff_exists.1 hsome
  obtain ⟨id, type, name, props, style, children⟩ := c
  refine ⟨rule, hr, ?_, ?_⟩
  · rw [markup, hr]
    dsimp only [build]
    cases ownText? (lowerProps props rule) <;> rfl
  · rw [markup, hr]
    dsimp only [build]
    cases ownText? (lowerProps props rule) <;> cases hi : rule.isIntrinsic <;>
      simpa [Mapping.Rule.isIntrinsic] using hi

/-- **The markup stands for the tree,** node for node. -/
theorem realizes_markup {c : Component} (h : ∀ d ∈ c.descendants, (r.get? d.type p).isSome) :
    List.Forall₂ (Realizes r p) c.descendants (markup r p c).elements :=
  (loweredTo_elements c h).imp fun _ _ hm => hm.realizes

/-! ## A whole tree -/

/-- Each member of a list has a partner in the list that it is related to. -/
theorem exists_zip_of_forall₂ {α : Type u} {β : Type v} {R : α → β → Prop} {l : List α}
    {l' : List β} (h : List.Forall₂ R l l') {a : α} (ha : a ∈ l) : ∃ b, (a, b) ∈ l.zip l' := by
  induction h with
  | nil => cases ha
  | @cons c d l l' _ _ ih =>
    rcases List.mem_cons.1 ha with rfl | ha
    · exact ⟨d, .head _⟩
    · obtain ⟨b, hb⟩ := ih ha
      exact ⟨b, .tail _ hb⟩

/-- **A tree is lowered** exactly if each node of it has a rule, to its markup and what it
collects. -/
theorem lower_eq_ok_iff {root : Component} {m : Markup} {context : Context} :
    lower r p root = .ok (m, context) ↔
      (∀ c ∈ root.descendants, (r.get? c.type p).isSome) ∧ m = markup r p root ∧
        context = root.descendants.foldl (visit r p) .empty := by
  rw [lower, lowerNode_eq, ← firstUnsupported?_eq_none_iff]
  cases firstUnsupported? r p root.descendants <;> simp [eq_comm]

/-- **The modules of a tree** are collected in the order in which they are first needed. -/
theorem keys_tree (root : Component) :
    (root.descendants.foldl (visit r p) .empty).imports.modules.keys =
      modules r p root.descendants :=
  keys_foldl_visit [] root.descendants rfl

/-- **The packages of a tree** are those of its modules. -/
theorem contains_tree {root : Component} {package : String} :
    (root.descendants.foldl (visit r p) .empty).dependencies.contains package ↔
      ∃ module ∈ modules r p root.descendants, packageName? module = some package := by
  rw [contains_foldl_visit]
  exact or_iff_left Bool.false_ne_true

/-- **The components of the markup are what is imported**, each of the module of the node that
it stands for. -/
theorem hasName_tree_iff_component {root : Component}
    (h : ∀ c ∈ root.descendants, (r.get? c.type p).isSome) {module name : String} :
    (root.descendants.foldl (visit r p) .empty).imports.hasName module name ↔
      ∃ e ∈ root.descendants.zip (markup r p root).elements,
        e.2.kind = .component ∧ e.2.tag = name ∧ module? r p e.1 = some module := by
  have hnodes := realizes_markup h
  rw [hasName_tree]
  constructor
  · rintro ⟨c, hc, rule, hr, hi, rfl, rfl⟩
    obtain ⟨node, he⟩ := exists_zip_of_forall₂ hnodes hc
    obtain ⟨rule', hr', ht, hk⟩ := List.forall₂_zip hnodes he
    obtain rfl := Option.some.inj (hr.symm.trans hr')
    refine ⟨(c, node), he, hk.2 ?_, ht, ?_⟩
    · simpa [Mapping.Rule.isIntrinsic] using hi
    · rw [module?, hr, Option.bind_some, hi, if_neg Bool.false_ne_true]
  · rintro ⟨⟨c, node⟩, he, -, rfl, hm⟩
    obtain ⟨rule, hr, ht, -⟩ := List.forall₂_zip hnodes he
    refine ⟨c, (List.of_mem_zip he).1, rule, hr, ?_⟩
    rw [module?, hr, Option.bind_some] at hm
    cases hi : rule.isIntrinsic with
    | true => rw [hi, if_pos rfl] at hm; cases hm
    | false =>
      rw [hi, if_neg Bool.false_ne_true] at hm
      exact ⟨rfl, Option.some.inj hm, ht.symm⟩

/-- **What lowering collects.** A name is collected for a module exactly if the module is not
empty and some node of the tree has a rule for that tag of that module. The modules are
those of the nodes, each once, in the order of the first node in pre-order that needs
it, and the packages are those that the modules belong to. Text aside, the markup has a
node for each node of the tree, in pre-order, and what is imported are the tags of its
components, each of the module of the rule for the node that the component stands for. -/
theorem lower_collects {root : Component} {m : Markup} {context : Context}
    (h : lower r p root = .ok (m, context)) :
    (∀ module name, context.imports.hasName module name ↔
      module ≠ "" ∧ ∃ c ∈ root.descendants, ∃ rule, r.get? c.type p = some rule ∧
        rule.importPath = module ∧ rule.tag = name) ∧
    context.imports.modules.keys = modules r p root.descendants ∧
    context.imports.modules.keys.Nodup ∧
    (∀ package, context.dependencies.contains package ↔
      ∃ module ∈ context.imports.modules.keys, packageName? module = some package) ∧
    List.Forall₂ (Realizes r p) root.descendants m.elements ∧
    ∀ module name, context.imports.hasName module name ↔
      ∃ e ∈ root.descendants.zip m.elements,
        e.2.kind = .component ∧ e.2.tag = name ∧ module? r p e.1 = some module := by
  obtain ⟨hsome, rfl, rfl⟩ := lower_eq_ok_iff.1 h
  refine ⟨fun module name => ?_, keys_tree root, Dict.nodup_keys _, fun package => ?_,
    realizes_markup hsome, fun module name => hasName_tree_iff_component hsome⟩
  · rw [hasName_tree]
    simp only [needs_iff]
    constructor
    · rintro ⟨c, hc, hm, hrule⟩
      exact ⟨hm, c, hc, hrule⟩
    · rintro ⟨hm, c, hc, hrule⟩
      exact ⟨c, hc, hm, hrule⟩
  · rw [keys_tree]
    exact contains_tree

/-- A registry with two components that one package brings in two of its modules. -/
def cardRegistry : Registry :=
  Registry.standard.register
    [(Mapping.ofType "Card").withRule .h5 (.imported "Card" "@acme/ui/card"),
      (Mapping.ofType "Badge").withRule .h5 (.imported "Badge" "@acme/ui/badge")] false

/-- A card in which one type occurs twice and another is intrinsic. -/
def badgeRoot : Component :=
  { Component.leaf "card" "Card" with
    children := [{ Component.leaf "box" "Container" with children := [.leaf "new" "Badge"] },
      .leaf "line" "Divider", .leaf "hot" "Badge"] }

/-- The hypothesis of `lower_collects` is satisfiable: three modules of two packages, and `hr`
of none. -/
theorem badgeRoot_collects :
    ∃ m context, lower cardRegistry .h5 badgeRoot = .ok (m, context) ∧
      context.imports.modules.keys = ["@acme/ui/card", "@tarojs/components", "@acme/ui/badge"] ∧
      context.dependencies.contains "@acme/ui" ∧
      ¬ context.imports.hasName "" "hr" := by
  have hsome : ∀ c ∈ badgeRoot.descendants, (cardRegistry.get? c.type .h5).isSome := by
    decide
  have hlower := lower_eq_ok_iff.2 ⟨hsome, rfl, rfl⟩
  obtain ⟨hnames, hkeys, -, hpackages, -⟩ := lower_collects hlower
  have hmodules : modules cardRegistry .h5 badgeRoot.descendants =
      ["@acme/ui/card", "@tarojs/components", "@acme/ui/badge"] := by
    decide
  refine ⟨_, _, hlower, hkeys.trans hmodules, ?_, fun hn => ((hnames _ _).1 hn).1 rfl⟩
  refine (hpackages _).2 ⟨"@acme/ui/card", ?_, by decide⟩
  rw [hkeys, hmodules]
  exact .head _

end Lowering
end Pagewright
