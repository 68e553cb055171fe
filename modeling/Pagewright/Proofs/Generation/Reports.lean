/-
# What is reported as dropped

A platform drops attributes of a style map at two places. The style sheet of a page is
made of the style maps as they are authored, and what is dropped there is not reported.
Lowering reports what it drops, but it adapts a style map after the rule of the node has
renamed its attributes. So an attribute that is missing in the style sheet is reported if
some node has, once renamed, an attribute of this name (`reports_pageOf_iff`). Every page
reports all that its style sheet drops exactly if no rule renames an attribute that the
platform does not support (`reports_of_all_pages_iff`).
-/

import Pagewright.Proofs.Generation.Outcome

namespace Pagewright

namespace Style

variable {p : Platform}

theorem mem_unsupported_iff {key : String} : key ∈ unsupported p ↔ ¬ isSupported p key := by
  simp [isSupported]

/-- An attribute is dropped exactly if it is not supported. -/
theorem transform?_eq_none_iff {key : String} {v : Json} :
    transform? p key v = none ↔ key ∈ unsupported p := by
  rw [transform?, mem_unsupported_iff]
  split <;> simp [*]

/-- **What a warning says:** the attribute, and the platform that it was dropped for. -/
theorem dropped_eq (p : Platform) (key : String) :
    dropped p key =
      ⟨.warning, "style", "style property '" ++ key ++ "' is not supported on " ++
        p.displayName ++ " and was dropped", none⟩ := rfl

/-- A warning tells which attribute was dropped. -/
theorem dropped_injective (p : Platform) : Function.Injective (dropped p) := by
  intro key key' h
  have hmessage := congrArg Diagnostic.message h
  simp only [dropped, String.append_assoc, String.append_right_inj] at hmessage
  exact String.append_left_inj _ |>.1 hmessage

/-- The warnings for a style map are those for the attributes that the platform does not support. -/
theorem droppedIn_eq (p : Platform) (styles : Dict String Json) :
    droppedIn p styles = (styles.keys.filter (· ∈ unsupported p)).map (dropped p) := by
  rw [droppedIn]
  refine congrArg (List.map _) (List.filter_congr fun key _ => ?_)
  simp [isSupported]

/-- A style map leads to the warning for an attribute exactly if it has the attribute and the
platform does not support it. -/
theorem dropped_mem_droppedIn_iff {styles : Dict String Json} {key : String} :
    dropped p key ∈ droppedIn p styles ↔ key ∈ styles.keys ∧ key ∈ unsupported p := by
  rw [droppedIn_eq, List.mem_map_of_injective (dropped_injective p), List.mem_filter,
    decide_eq_true_iff]

end Style

namespace Lowering

/-- The name that mappings give to an attribute. -/
def styleName (mappings : List Mapping.StyleMapping) (p : Platform) (key : String) : String :=
  match mappings.find? fun m => m.source == key && m.appliesTo p with
  | some m => m.target
  | none => key

/-- The name that an attribute has once a rule has renamed it. -/
def nameUnder (rule : Mapping.Rule) (p : Platform) (key : String) : String :=
  match rule.styles with
  | some mappings => styleName mappings p key
  | none => key

variable {r : Registry} {p : Platform}

/-- An entry of a style map gets the name that the mappings give. -/
theorem fst_renameStyle (mappings : List Mapping.StyleMapping) (e : String × Json) :
    (renameStyle mappings p e).1 = styleName mappings p e.1 := by
  unfold renameStyle styleName
  cases mappings.find? fun m => m.source == e.1 && m.appliesTo p <;> rfl

/-- **The attributes after renaming** are those before, under their names. -/
theorem mem_keys_renameStyles_iff {styles : Dict String Json} {rule : Mapping.Rule}
    {key : String} :
    key ∈ (renameStyles styles rule p).keys ↔
      ∃ key' ∈ styles.keys, nameUnder rule p key' = key := by
  unfold renameStyles nameUnder
  cases rule.styles with
  | none => simp
  | some mappings =>
    have hkeys : (styles.entries.map (renameStyle mappings p)).map Prod.fst =
        styles.keys.map (styleName mappings p) := by
      rw [Dict.keys, List.map_map, List.map_map]
      exact List.map_congr_left fun e _ => fst_renameStyle mappings e
    dsimp only
    rw [Dict.mem_keys_ofList, hkeys, List.mem_map]

/-- The style map of a node that is adapted when the node is lowered. -/
def loweredStyles (r : Registry) (p : Platform) (c : Component) : Dict String Json :=
  match r.get? c.type p with
  | some rule => renameStyles c.style rule p
  | none => ∅

/-- The attributes of a node as it is lowered are its own, under the names that its rule gives
them. -/
theorem mem_keys_loweredStyles_iff {c : Component} {key : String} :
    key ∈ (loweredStyles r p c).keys ↔
      ∃ rule, r.get? c.type p = some rule ∧ ∃ key' ∈ c.style.keys, nameUnder rule p key' = key := by
  unfold loweredStyles
  cases r.get? c.type p with
  | none =>
    have hempty : (∅ : Dict String Json).keys = [] := rfl
    simp [hempty]
  | some rule => simp [mem_keys_renameStyles_iff]

/-- **A node reports** what the platform drops of its style map, renamed. -/
theorem diagnostics_visit (context : Context) (c : Component) :
    (visit r p context c).diagnostics =
      context.diagnostics ++ Style.droppedIn p (loweredStyles r p c) := by
  unfold visit loweredStyles
  cases r.get? c.type p with
  | none => exact (List.append_nil _).symm
  | some rule =>
    dsimp only
    unfold collect
    split <;> rfl

/-- **A tree reports** what its nodes report, in pre-order. -/
theorem diagnostics_foldl_visit (context : Context) (nodes : List Component) :
    (nodes.foldl (visit r p) context).diagnostics =
      context.diagnostics ++ nodes.flatMap fun c => Style.droppedIn p (loweredStyles r p c) := by
  induction nodes generalizing context with
  | nil => exact (List.append_nil _).symm
  | cons c nodes ih =>
    rw [List.foldl_cons, ih, diagnostics_visit, List.flatMap_cons, List.append_assoc]

end Lowering

namespace Generation

open Lowering (isSome_of_single loweredStyles mem_keys_loweredStyles_iff nameUnder)

/-- Findings tell of each attribute that the style sheet of a tree drops: a warning of styles that
names the attribute and the platform. -/
def Reports (p : Platform) (root : Component) (found : List Diagnostic) : Prop :=
  ∀ c ∈ root.descendants, ∀ e ∈ c.style.entries, Style.transform? p e.1 e.2 = none →
    ⟨.warning, "style", "style property '" ++ e.1 ++ "' is not supported on " ++
      p.displayName ++ " and was dropped", none⟩ ∈ found

/-- A node of a tree has an attribute of a name, once the rule for it has renamed them. -/
def Carried (r : Registry) (p : Platform) (root : Component) (key : String) : Prop :=
  ∃ c ∈ root.descendants, ∃ rule, r.get? c.type p = some rule ∧
    ∃ key' ∈ c.style.keys, nameUnder rule p key' = key

/-- A rule leaves their names to the attributes that the platform does not support. -/
def KeepsUnsupported (p : Platform) (rule : Mapping.Rule) : Prop :=
  ∀ key ∈ Style.unsupported p, nameUnder rule p key = key

variable {r : Registry} {p : Platform} {name : String} {root : Component}

/-- **The findings of a page** are those of its nodes, in pre-order. -/
theorem diagnostics_pageOf :
    (pageOf r p name root).context.diagnostics =
      root.descendants.flatMap fun c => Style.droppedIn p (loweredStyles r p c) :=
  Lowering.diagnostics_foldl_visit .empty root.descendants

/-- **A page warns of an attribute** exactly if it is unsupported and carried by a node. -/
theorem dropped_mem_pageOf_iff {key : String} :
    Style.dropped p key ∈ (pageOf r p name root).context.diagnostics ↔
      key ∈ Style.unsupported p ∧ Carried r p root key := by
  rw [diagnostics_pageOf, List.mem_flatMap]
  simp only [Style.dropped_mem_droppedIn_iff, mem_keys_loweredStyles_iff, Carried]
  constructor
  · rintro ⟨c, hc, hcarried, hun⟩
    exact ⟨hun, c, hc, hcarried⟩
  · rintro ⟨hun, c, hc, hcarried⟩
    exact ⟨c, hc, hcarried, hun⟩

/-- Reporting what is dropped is reporting the unsupported attributes of all nodes. -/
theorem reports_iff {found : List Diagnostic} :
    Reports p root found ↔ ∀ c ∈ root.descendants, ∀ key ∈ c.style.keys,
      key ∈ Style.unsupported p → Style.dropped p key ∈ found := by
  simp only [Reports, Style.dropped_eq, Style.transform?_eq_none_iff, Dict.keys,
    List.forall_mem_map]

/-- **What its style sheet drops is reported** by a page exactly if each attribute that it drops
is carried by a node. -/
theorem reports_pageOf_iff :
    Reports p root (pageOf r p name root).context.diagnostics ↔
      ∀ c ∈ root.descendants, ∀ key ∈ c.style.keys, key ∈ Style.unsupported p →
        Carried r p root key := by
  rw [reports_iff]
  simp only [dropped_mem_pageOf_iff]
  exact forall₄_congr fun _ _ _ _ => forall_congr' fun h => and_iff_right h

/-- A page whose rules leave their names to the attributes that the platform does not support
reports all that its style sheet drops. -/
theorem reports_pageOf (hsome : ∀ c ∈ root.descendants, (r.get? c.type p).isSome)
    (hkeeps : ∀ c ∈ root.descendants, ∀ rule, r.get? c.type p = some rule →
      KeepsUnsupported p rule) :
    Reports p root (pageOf r p name root).context.diagnostics := by
  refine reports_pageOf_iff.2 fun c hc key hkey hun => ?_
  obtain ⟨rule, hr⟩ := Option.isSome_iff_exists.1 (hsome c hc)
  exact ⟨c, hc, rule, hr, key, hkey, hkeeps c hc rule hr key hun⟩

/-- **When all pages report** what their style sheets drop: exactly if no rule renames an
attribute that the platform does not support. If one does, a page of one component with
this attribute is silent. -/
theorem reports_of_all_pages_iff :
    (∀ page name output root, generatePage r page p name = .ok output →
        page.components = some root → Reports p root output.context.diagnostics) ↔
      ∀ type rule, r.get? type p = some rule → KeepsUnsupported p rule := by
  constructor
  · intro hall type rule hr key hun
    let root : Component := { Component.leaf "" type with style := .ofList [(key, .null)] }
    have hsome : ∀ c ∈ root.descendants, (r.get? c.type p).isSome := isSome_of_single rfl hr
    have hreports := hall ⟨"", none, some root⟩ "" _ root
      (generatePage_eq_ok_iff.2 ⟨root, rfl, hsome, rfl⟩) rfl
    obtain ⟨c, hc, rule', hr', key', hkey', hname⟩ :=
      reports_pageOf_iff.1 hreports root (.head _) key (.head _) hun
    obtain rfl := List.mem_singleton.1 hc
    obtain rfl := List.mem_singleton.1 hkey'
    obtain rfl := Option.some.inj (hr.symm.trans hr')
    exact hname
  · intro hkeeps page name output root hg hroot
    obtain ⟨root', hroot', hsome, rfl⟩ := generatePage_eq_ok_iff.1 hg
    obtain rfl := Option.some.inj (hroot.symm.trans hroot')
    exact reports_pageOf hsome fun c _ => hkeeps c.type

/-- **What a page reports** of the attributes that the platform does not support. Those of its
nodes once the rules have renamed them, in pre-order, each with a warning that names it and the
platform; so what its style sheet drops is reported exactly if each attribute that it drops is
carried by a node, renamed or not. It is whenever the rules for the nodes leave their names to the
attributes that the platform does not support. -/
theorem generatePage_reports {page : Page} {output : PageOutput}
    (h : generatePage r page p name = .ok output) :
    ∃ root, page.components = some root ∧
      output.context.diagnostics =
        root.descendants.flatMap (fun c =>
          ((loweredStyles r p c).keys.filter (· ∈ Style.unsupported p)).map fun key =>
            ⟨.warning, "style", "style property '" ++ key ++ "' is not supported on " ++
              p.displayName ++ " and was dropped", none⟩) ∧
      (Reports p root output.context.diagnostics ↔
        ∀ c ∈ root.descendants, ∀ key ∈ c.style.keys, key ∈ Style.unsupported p →
          Carried r p root key) ∧
      ((∀ c ∈ root.descendants, ∀ rule, r.get? c.type p = some rule → KeepsUnsupported p rule) →
        Reports p root output.context.diagnostics) := by
  obtain ⟨root, hroot, hsome, rfl⟩ := generatePage_eq_ok_iff.1 h
  refine ⟨root, hroot, ?_, reports_pageOf_iff, reports_pageOf hsome⟩
  rw [diagnostics_pageOf]
  exact List.flatMap_congr fun c _ => Style.droppedIn_eq p (loweredStyles r p c)

/-- The standard registry with a rule for cards that renames their shadow. -/
def shadowRegistry : Registry :=
  let rule : Mapping.Rule :=
    { Mapping.Rule.imported "View" "@tarojs/components" with
      styles := some [⟨"boxShadow", "shadow", none, none⟩] }
  Registry.standard.register [(Mapping.ofType "Card").withRule .weapp rule] false

/-- A card with a shadow. -/
def shadowCard : Component :=
  { Component.leaf "card" "Card" with style := .ofList [("boxShadow", .string "none")] }

/-- The card in a container with a shadow. -/
def shadowBox : Component :=
  { Component.leaf "box" "Container" with
    style := .ofList [("boxShadow", .string "none")], children := [shadowCard] }

/-- The hypothesis of `generatePage_reports` is satisfiable: in the box two shadows are dropped
from the style sheet, and the container reports its own. -/
theorem shadowBox_reports :
    ∃ output, generatePage shadowRegistry ⟨"home", none, some shadowBox⟩ .weapp "home" =
        .ok output ∧
      output.context.diagnostics =
        [⟨.warning, "style",
          "style property 'boxShadow' is not supported on WeChat mini program and was dropped",
          none⟩] ∧
      Reports .weapp shadowBox output.context.diagnostics := by
  have hg : generatePage shadowRegistry ⟨"home", none, some shadowBox⟩ .weapp "home" =
      .ok (pageOf shadowRegistry .weapp "home" shadowBox) :=
    generatePage_eq_ok_iff.2 ⟨shadowBox, rfl, by decide, rfl⟩
  obtain ⟨root, hroot, hfound, hreports, -⟩ := generatePage_reports hg
  obtain rfl := Option.some.inj hroot
  refine ⟨_, hg, hfound, hreports.2 fun c hc key hkey _ => ?_⟩
  have hkeys : ∀ c ∈ shadowBox.descendants, ∀ key ∈ c.style.keys, key = "boxShadow" := by decide
  obtain rfl := hkeys c hc key hkey
  exact ⟨shadowBox, .head _, _, rfl, "boxShadow", .head _, rfl⟩

/-- **A shadow is dropped in silence:** the style sheet of the card has none, and nothing is
reported. -/
theorem shadowCard_silent :
    ∃ output, generatePage shadowRegistry ⟨"home", none, some shadowCard⟩ .weapp "home" =
        .ok output ∧
      Style.transform? .weapp "boxShadow" (.string "none") = none ∧
      output.context.diagnostics = [] ∧
      ¬ Reports .weapp shadowCard output.context.diagnostics := by
  have hfound : (pageOf shadowRegistry .weapp "home" shadowCard).context.diagnostics = [] := by
    rw [diagnostics_pageOf]
    rfl
  refine ⟨_, generatePage_eq_ok_iff.2 ⟨shadowCard, rfl, by decide, rfl⟩, rfl, hfound, fun h => ?_⟩
  have hmem := h shadowCard (.head _) ("boxShadow", .string "none") (.head _) rfl
  rw [hfound] at hmem
  cases hmem

end Generation
end Pagewright
