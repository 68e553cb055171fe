/-
# Attributes that are set in one place

A tag has an attribute for each of its props that is not `null`, and one more, `style`, if it has
styles. The names of props are distinct, so a name stands twice in a tag only if a prop is called
`style` (`nodup_attributeNames_iff`). What stands between the tags is set twice if there is a
`children` attribute too. Lowering takes a text out of the props, and no other value
(`setsOnce_build_iff`):

| node under its rule | emitted |
| --- | --- |
| a prop `style` that is not `null`, and styles | two `style` attributes |
| a text under `children`, and children | the text as the first child |
| another value under `children` that is not `null`, and children | a `children` attribute and the children |

The first and the last of these are all the nodes that set something twice
(`generatePage_setsOnce`).
-/

import Pagewright.Manifest.PageFile
import Pagewright.Proofs.Generation.Outcome
import Pagewright.Proofs.Lowering.Collected
import Mathlib

namespace Pagewright
namespace Source
namespace Jsx

/-- The names of the attributes of a node, in order. -/
def attributeNames (m : Markup) : List String := (attributes m).map Prod.fst

/-- A node whose attributes have distinct names, and none of them is what stands between its
tags. -/
structure SetsOnce (m : Markup) : Prop where
  nodup : (attributeNames m).Nodup
  content : m.children ≠ [] → Lowering.childrenProp ∉ attributeNames m

variable {m : Markup}

/-- Everything is set once if the attributes are distinct and do not set what stands between the
tags. -/
theorem setsOnce_iff :
    SetsOnce m ↔ (attributeNames m).Nodup ∧
      (m.children ≠ [] → Lowering.childrenProp ∉ attributeNames m) :=
  ⟨fun h => ⟨h.nodup, h.content⟩, fun h => ⟨h.1, h.2⟩⟩

/-- A prop that is given, and not as `null`. -/
def Given (props : Dict String PropValue) (name : String) : Prop :=
  ∃ v, props.get? name = some v ∧ v.isNull = false

instance (props : Dict String PropValue) (name : String) : Decidable (Given props name) :=
  decidable_of_iff ((props.get? name).any fun v => !v.isNull) <| by
    simp [Given, Option.any_eq_true]

/-- The names of the props that are written are those of the given ones. -/
theorem mem_names_of_props_iff {name : String} :
    name ∈ (m.props.entries.filter fun e => !e.2.isNull).map Prod.fst ↔ Given m.props name := by
  rw [List.mem_map]
  constructor
  · rintro ⟨e, he, rfl⟩
    obtain ⟨he, hnull⟩ := List.mem_filter.1 he
    exact ⟨e.2, Dict.get?_eq_some_iff.2 he, by simpa using hnull⟩
  · rintro ⟨v, hv, hnull⟩
    exact ⟨(name, v), List.mem_filter.2 ⟨Dict.get?_eq_some_iff.1 hv, by simp [hnull]⟩, rfl⟩

/-- The attributes are the given props and, behind them, the styles. -/
theorem attributeNames_eq :
    attributeNames m = (m.props.entries.filter fun e => !e.2.isNull).map Prod.fst ++
      if m.styles.isEmpty then [] else ["style"] := by
  rw [attributeNames, attributes, List.map_append]
  split
  · rfl
  · rfl

/-- An attribute but `style` is a given prop. -/
theorem mem_attributeNames_iff {name : String} (h : name ≠ "style") :
    name ∈ attributeNames m ↔ Given m.props name := by
  rw [attributeNames_eq, List.mem_append, mem_names_of_props_iff]
  refine or_iff_left fun hmem => ?_
  split at hmem
  · cases hmem
  · exact h (List.mem_singleton.1 hmem)

/-- **A name stands twice** in a tag only if it is `style`. -/
theorem nodup_attributeNames_iff :
    (attributeNames m).Nodup ↔ ¬ (Given m.props "style" ∧ m.styles.isEmpty = false) := by
  have hprops : ((m.props.entries.filter fun e => !e.2.isNull).map Prod.fst).Nodup :=
    Dict.nodup_filter _ m.props.nodup
  rw [attributeNames_eq]
  cases hstyles : m.styles.isEmpty with
  | true => simpa using hprops
  | false =>
    rw [if_neg Bool.false_ne_true, ← List.concat_eq_append, List.nodup_concat,
      mem_names_of_props_iff, and_iff_left hprops, and_iff_left rfl]

end Jsx
end Source

namespace Lowering

open Source.Jsx (Given SetsOnce attributeNames mem_attributeNames_iff nodup_attributeNames_iff
  setsOnce_iff)

variable {r : Registry} {p : Platform}

/-- A node whose props and whose styles both become an attribute `style`. -/
def StylesTwice (r : Registry) (p : Platform) (c : Component) : Prop :=
  ∃ rule, r.get? c.type p = some rule ∧ Given (lowerProps c.props rule) "style" ∧
    (Style.adapt p (renameStyles c.style rule p)).isEmpty = false

/-- A node with children under which the props give something else than a text. -/
def FillsTwice (r : Registry) (p : Platform) (c : Component) : Prop :=
  ∃ rule, r.get? c.type p = some rule ∧ Given (lowerProps c.props rule) childrenProp ∧
    ownText? (lowerProps c.props rule) = none ∧ c.children ≠ []

instance : DecidablePred (StylesTwice r p) := fun c =>
  decidable_of_iff ((r.get? c.type p).any fun rule => Given (lowerProps c.props rule) "style" ∧
    (Style.adapt p (renameStyles c.style rule p)).isEmpty = false) <| by
      simp [StylesTwice, Option.any_eq_true]

instance : DecidablePred (FillsTwice r p) := fun c =>
  decidable_of_iff ((r.get? c.type p).any fun rule =>
    Given (lowerProps c.props rule) childrenProp ∧
      ownText? (lowerProps c.props rule) = none ∧ ¬ c.children.isEmpty) <| by
      simp [FillsTwice, Option.any_eq_true]

/-- **A built node** sets something twice if its props hold a `style` beside its styles, or
`children` that are no text beside its children. -/
theorem setsOnce_build_iff (rule : Mapping.Rule) (props : Dict String PropValue)
    (styles : Dict String Json) (children : List Markup) :
    SetsOnce (build p rule props styles children) ↔
      ¬ (Given props "style" ∧ (Style.adapt p styles).isEmpty = false) ∧
        ¬ (Given props childrenProp ∧ ownText? props = none ∧ children ≠ []) := by
  rw [setsOnce_iff, nodup_attributeNames_iff, mem_attributeNames_iff (by decide), build]
  cases htext : ownText? props with
  | none =>
    refine and_congr_right fun _ => ?_
    simp only [not_and, true_implies]
    exact imp_not_comm
  | some text =>
    have hstyle : Given (props.erase childrenProp) "style" ↔ Given props "style" := by
      rw [Given, Dict.get?_erase_of_ne (by decide), Given]
    have hchildren : ¬ Given (props.erase childrenProp) childrenProp := by
      rintro ⟨v, hv, -⟩
      rw [Dict.get?_erase_self] at hv
      cases hv
    dsimp only
    rw [hstyle]
    simp [hchildren]

/-- **What a node is lowered to** sets something twice exactly if the node does. -/
theorem LoweredTo.setsOnce_iff {c : Component} {m : Markup} (h : LoweredTo r p c m) :
    SetsOnce m ↔ ¬ StylesTwice r p c ∧ ¬ FillsTwice r p c := by
  obtain ⟨rfl, hsome⟩ := h.eq_markup
  obtain ⟨rule, hr⟩ := Option.isSome_iff_exists.1 hsome
  obtain ⟨id, type, name, props, style, children⟩ := c
  have hchildren : markupOfAll r p children ≠ [] ↔ children ≠ [] := by
    cases children <;> simp [markupOfAll]
  rw [markup, hr]
  dsimp only
  rw [setsOnce_build_iff, hchildren, StylesTwice, FillsTwice]
  dsimp only at hr ⊢
  simp only [hr, Option.some.injEq, exists_eq_left']

end Lowering

/-- What holds of each member holds of each partner. -/
theorem forall_mem_iff_of_forall₂ {α : Type u} {β : Type v} {P : α → Prop} {Q : β → Prop}
    {l : List α} {l' : List β} (h : List.Forall₂ (fun a b => Q b ↔ P a) l l') :
    (∀ b ∈ l', Q b) ↔ ∀ a ∈ l, P a := by
  induction h with
  | nil => simp
  | cons hab _ ih => rw [List.forall_mem_cons, List.forall_mem_cons, hab, ih]

namespace Generation

open Lowering (StylesTwice FillsTwice)
open Source.Jsx (SetsOnce)

variable {r : Registry} {p : Platform} {page : Page} {name : String} {output : PageOutput}

/-- **Where attributes are set in one place.** Text aside, the nodes of a page's markup stand for
the nodes of its tree, in pre-order. The attributes of such a node have distinct names and none of
them is `children` beside what stands between the tags, unless the props of its node hold a `style`
beside its styles, or `children` that are no text beside its children. -/
theorem generatePage_setsOnce (h : generatePage r page p name = .ok output) :
    ∃ root, page.components = some root ∧
      List.Forall₂ (fun c m => SetsOnce m ↔ ¬ StylesTwice r p c ∧ ¬ FillsTwice r p c)
        root.descendants output.markup.elements ∧
      ((∀ m ∈ output.markup.elements, SetsOnce m) ↔
        ∀ c ∈ root.descendants, ¬ StylesTwice r p c ∧ ¬ FillsTwice r p c) := by
  obtain ⟨root, hroot, hsome, rfl⟩ := generatePage_eq_ok_iff.1 h
  have hnodes := (Lowering.loweredTo_elements root hsome).imp fun _ _ hm => hm.setsOnce_iff
  exact ⟨root, hroot, hnodes, forall_mem_iff_of_forall₂ hnodes⟩

/-- A view with a style, around a text. -/
def plainRoot : Component :=
  { Component.leaf "root" "Container" with
    style := .ofList [("width", .number (.integer 1))]
    children := [{ Component.leaf "title" "Text" with
      props := .ofList [("content", .literal (.string "Hello"))] }] }

/-- The hypothesis of `generatePage_setsOnce` is satisfiable, by a page on which everything is set
in one place. -/
theorem plainPage_setsOnce :
    ∃ output, generatePage .standard ⟨"home", none, some plainRoot⟩ .weapp "home" = .ok output ∧
      ∀ m ∈ output.markup.elements, SetsOnce m := by
  have hsome : ∀ c ∈ plainRoot.descendants, (Registry.standard.get? c.type .weapp).isSome := by
    decide
  have honce : ∀ c ∈ plainRoot.descendants,
      ¬ StylesTwice .standard .weapp c ∧ ¬ FillsTwice .standard .weapp c := by
    decide
  have hpage : generatePage .standard ⟨"home", none, some plainRoot⟩ .weapp "home" =
      .ok (pageOf .standard .weapp "home" plainRoot) :=
    generatePage_eq_ok_iff.2 ⟨plainRoot, rfl, hsome, rfl⟩
  obtain ⟨root, hroot, -, hiff⟩ := generatePage_setsOnce hpage
  obtain rfl := Option.some.inj hroot
  exact ⟨_, hpage, hiff.2 honce⟩

/-- A page whose root has a prop `style` beside a style, and a number under `children` beside a
child. -/
def twiceText : String :=
  "\x7b\"name\":\"home\",\"components\":\x7b\"id\":\"a\",\"type\":\"Text\"," ++
    "\"props\":\x7b\"style\":\"b\",\"children\":5\x7d,\"style\":\x7b\"top\":1\x7d," ++
    "\"children\":[\x7b\"id\":\"b\",\"type\":\"Text\"\x7d]\x7d\x7d"

/-- The tree of `twiceText`. -/
def twiceRoot : Component :=
  { Component.leaf "a" "Text" with
    props := .ofList
      [("style", .literal (.string "b")), ("children", .literal (.number (.integer 5)))]
    style := .ofList [("top", .number (.integer 1))]
    children := [.leaf "b" "Text"] }

/-- **Attributes can be set twice:** a page that is accepted is made with a tag that has two
attributes `style` and an attribute `children` beside its children. -/
theorem twicePage_setsTwice :
    Manifest.parsePage twiceText = .ok ⟨"home", none, some twiceRoot⟩ ∧
      ∃ output, generatePage .standard ⟨"home", none, some twiceRoot⟩ .weapp "home" = .ok output ∧
        ∃ m ∈ output.markup.elements,
          Source.Jsx.opening m =
            "<Text style=\"b\" children=\x7b5\x7d style=\x7b\x7b top: \"1rpx\" \x7d\x7d" ∧
          ¬ (Source.Jsx.attributeNames m).Nodup ∧
          m.children ≠ [] ∧ "children" ∈ Source.Jsx.attributeNames m := by
  have hsome : ∀ c ∈ twiceRoot.descendants, (Registry.standard.get? c.type .weapp).isSome := by
    decide
  have hread : Manifest.parsePage twiceText = .ok ⟨"home", none, some twiceRoot⟩ := by
    unfold Manifest.parsePage Page.parse
    obtain ⟨document, hdocument⟩ : ∃ document, Json.Document.ofString twiceText = document :=
      ⟨_, rfl⟩
    rw [hdocument]
    cbv at hdocument
    subst hdocument
    rfl
  refine ⟨hread, _, generatePage_eq_ok_iff.2 ⟨twiceRoot, rfl, hsome, rfl⟩,
    Lowering.markup .standard .weapp twiceRoot, ?_, ?_, ?_, ?_, ?_⟩
  · exact List.mem_filter.2 ⟨.head _, by decide⟩
  · decide +kernel
  · decide
  · decide
  · decide

end Generation
end Pagewright
