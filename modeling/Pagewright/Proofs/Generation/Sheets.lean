/-
# Inline styles and the style sheet of a page

The attributes of a node are adapted twice: when the node is lowered, for the markup, and
in the pass over the tree that makes the style sheet. The first time they have been renamed
by the rule of the node, the second time they have not. Where no rule renames an attribute
of its node the two agree (`generatePage_sheet`): the sheet has a rule for each node whose
markup has styles, with these styles, and both report the same in the same order.

The markup of a node is found in the markup of the page by its place: text aside, the nodes
of the markup are what the nodes of the tree are lowered to, in pre-order
(`loweredTo_elements`).
-/

import Pagewright.Proofs.Generation.Reports
import Pagewright.Proofs.Lowering.Collected
import Pagewright.Proofs.Style.TreeSheet

namespace Pagewright
namespace Lowering

/-- The renames of style attributes that the rule for a node has. -/
def styleMappings (r : Registry) (p : Platform) (c : Component) : List Mapping.StyleMapping :=
  ((r.get? c.type p).bind (·.styles)).getD []

/-- No rename that the rule for a node has applies on the platform to an attribute of the
node. -/
def KeepsStyle (r : Registry) (p : Platform) (c : Component) : Prop :=
  ∀ m ∈ styleMappings r p c, m.appliesTo p → m.source ∉ c.style.keys

instance (r : Registry) (p : Platform) (c : Component) : Decidable (KeepsStyle r p c) :=
  inferInstanceAs (Decidable (∀ m ∈ styleMappings r p c, m.appliesTo p → m.source ∉ c.style.keys))

variable {r : Registry} {p : Platform}

/-! ## The styles of a node -/

/-- A rule whose mappings name none of the attributes leaves a style map as it is. -/
theorem renameStyles_of_keepsStyle {c : Component} {rule : Mapping.Rule}
    (hr : r.get? c.type p = some rule) (h : KeepsStyle r p c) :
    renameStyles c.style rule p = c.style := by
  unfold renameStyles
  cases hstyles : rule.styles with
  | none => rfl
  | some mappings =>
    have hmappings : styleMappings r p c = mappings := by
      rw [styleMappings, hr, Option.bind_some, hstyles, Option.getD_some]
    have hkeep : ∀ e ∈ c.style.entries, renameStyle mappings p e = e := by
      intro e he
      have hfind : mappings.find? (fun m => m.source == e.1 && m.appliesTo p) = none := by
        rw [List.find?_eq_none]
        intro m hm hmatch
        rw [Bool.and_eq_true, beq_iff_eq] at hmatch
        refine h m (hmappings ▸ hm) hmatch.2 ?_
        rw [hmatch.1]
        exact List.mem_map_of_mem he
      rw [renameStyle, hfind]
    dsimp only
    rw [List.map_congr_left hkeep, List.map_id']
    exact Dict.ext_entries (Dict.entries_ofList_of_nodup c.style.nodup)

/-- **The styles of the markup** are the renamed attributes of its node, adapted. -/
theorem styles_markup {c : Component} {rule : Mapping.Rule} (hr : r.get? c.type p = some rule) :
    (markup r p c).styles = Style.adapt p (renameStyles c.style rule p) := by
  obtain ⟨id, type, name, props, style, children⟩ := c
  rw [markup, hr]
  dsimp only [build]
  cases ownText? (lowerProps props rule) <;> rfl

/-- **Inline styles are those of the style sheet** on a node whose attributes keep their
names. -/
theorem LoweredTo.styles_eq {c : Component} {m : Markup} (hm : LoweredTo r p c m)
    (h : KeepsStyle r p c) : m.styles = Style.adapt p c.style := by
  obtain ⟨rfl, hsome⟩ := hm.eq_markup
  obtain ⟨rule, hr⟩ := Option.isSome_iff_exists.1 hsome
  rw [styles_markup hr, renameStyles_of_keepsStyle hr h]

/-- A node that keeps its attributes is lowered with its own style map. -/
theorem loweredStyles_of_keepsStyle {c : Component} (hsome : (r.get? c.type p).isSome)
    (h : KeepsStyle r p c) : loweredStyles r p c = c.style := by
  obtain ⟨rule, hr⟩ := Option.isSome_iff_exists.1 hsome
  unfold loweredStyles
  rw [hr]
  exact renameStyles_of_keepsStyle hr h

/-! ## The nodes of a tree -/

/-- The rules that style maps of markup make under the selectors of the nodes. -/
def inlineRules (nodes : List (Component × Markup)) : List (String × Dict String Json) :=
  nodes.filterMap fun e => Style.ruleOf? (Style.classSelector e.1) e.2.styles

/-- **Nodes one after the other:** their markup makes the rules that their style maps make. -/
theorem inlineRules_zip {nodes : List Component} {ms : List Markup}
    (hlowered : List.Forall₂ (LoweredTo r p) nodes ms) (h : ∀ c ∈ nodes, KeepsStyle r p c) :
    inlineRules (nodes.zip ms) =
      nodes.filterMap fun c => Style.ruleOf? (Style.classSelector c) (Style.adapt p c.style) := by
  induction hlowered with
  | nil => rfl
  | @cons c m nodes ms hm _ ih =>
    rw [List.forall_mem_cons] at h
    have htail := ih h.2
    rw [inlineRules] at htail ⊢
    rw [List.zip_cons_cons, List.filterMap_cons, List.filterMap_cons, htail, hm.styles_eq h.1]

end Lowering

namespace Generation

open Lowering (KeepsStyle LoweredTo inlineRules loweredStyles_of_keepsStyle)

variable {r : Registry} {p : Platform} {name : String}

/-- **The findings of a page are those of its style sheet** when every node keeps its
attributes. -/
theorem diagnostics_pageOf_of_keepsStyle {root : Component}
    (hsome : ∀ c ∈ root.descendants, (r.get? c.type p).isSome)
    (hkeep : ∀ c ∈ root.descendants, KeepsStyle r p c) :
    (pageOf r p name root).context.diagnostics = Style.droppedInTree p root := by
  rw [diagnostics_pageOf, Style.droppedInTree, List.flatMap_def, List.flatMap_def]
  congr 1
  refine List.map_congr_left fun c hc => ?_
  rw [loweredStyles_of_keepsStyle (hsome c hc) (hkeep c hc)]

/-- **Inline styles and the style sheet agree** on a page whose rules rename no attribute that
their nodes have. Text aside, the nodes of the markup are what the nodes of the tree are
lowered to, in pre-order. The pass over the tree makes one rule, in this order, for each
node whose markup has styles, with the class selector of the node and these styles, and it
reports what lowering has reported, in the same order. -/
theorem generatePage_sheet {page : Page} {output : PageOutput}
    (h : generatePage r page p name = .ok output)
    (hkeep : ∀ root, page.components = some root → ∀ c ∈ root.descendants, KeepsStyle r p c) :
    ∃ root, page.components = some root ∧
      List.Forall₂ (LoweredTo r p) root.descendants output.markup.elements ∧
      (Style.Sheet.ofTree p root).rules =
        inlineRules (root.descendants.zip output.markup.elements) ∧
      Style.sheetPass p root = (Style.Sheet.ofTree p root, output.context.diagnostics) := by
  obtain ⟨root, hroot, hsome, rfl⟩ := generatePage_eq_ok_iff.1 h
  have hkeep := hkeep root hroot
  have hlowered := Lowering.loweredTo_elements root hsome
  refine ⟨root, hroot, hlowered, ?_, ?_⟩
  · exact (Style.rules_ofTree root).trans (Lowering.inlineRules_zip hlowered hkeep).symm
  · rw [Style.sheetPass_eq, diagnostics_pageOf_of_keepsStyle hsome hkeep]

/-- A card with a text, whose rule would rename a shadow but finds none. -/
def newCard : Component :=
  (Component.leaf "card" "Card").withStyle "fontSize" (.number (.integer 14))
    |>.withProp "children" (.literal (.string "New"))

/-- A container that loses one of its two attributes, around a node that loses its only one
and the card. -/
def newBox : Component :=
  { Component.leaf "box" "Container" with
    style := .ofList [("boxShadow", .string "none"), ("width", .string "10px")]
    children := [(Component.leaf "line" "Divider").withStyle "filter" (.string "none"), newCard] }

/-- The hypotheses of `generatePage_sheet` are satisfiable: of three nodes two have a rule. -/
theorem newBox_sheet :
    ∃ output, generatePage shadowRegistry ⟨"home", none, some newBox⟩ .weapp "home" =
        .ok output ∧
      (∀ c ∈ newBox.descendants, KeepsStyle shadowRegistry .weapp c) ∧
      Style.sheetPass .weapp newBox =
        (⟨[(".container-box", .ofList [("width", .string "10rpx")]),
            (".card-card", .ofList [("font-size", .string "14rpx")])]⟩,
          output.context.diagnostics) ∧
      output.context.diagnostics =
        [⟨.warning, "style",
            "style property 'boxShadow' is not supported on WeChat mini program and was dropped",
            none⟩,
          ⟨.warning, "style",
            "style property 'filter' is not supported on WeChat mini program and was dropped",
            none⟩] := by
  have hg : generatePage shadowRegistry ⟨"home", none, some newBox⟩ .weapp "home" =
      .ok (pageOf shadowRegistry .weapp "home" newBox) :=
    generatePage_eq_ok_iff.2 ⟨newBox, rfl, by decide, rfl⟩
  have hkeep : ∀ c ∈ newBox.descendants, KeepsStyle shadowRegistry .weapp c := by
    decide
  obtain ⟨root, hroot, -, -, hpass⟩ := generatePage_sheet hg
    fun root hroot => Option.some.inj hroot ▸ hkeep
  obtain rfl := Option.some.inj hroot
  have hsheet : Style.Sheet.ofTree .weapp newBox =
      ⟨[(".container-box", .ofList [("width", .string "10rpx")]),
        (".card-card", .ofList [("font-size", .string "14rpx")])]⟩ := by
    decide +kernel
  have hfound : Style.droppedInTree .weapp newBox =
      [Style.dropped .weapp "boxShadow", Style.dropped .weapp "filter"] := by
    decide
  refine ⟨_, hg, hkeep, hsheet ▸ hpass, ?_⟩
  rw [diagnostics_pageOf_of_keepsStyle (by decide) hkeep, hfound]
  rfl

end Generation
end Pagewright
