/-
# Platforms are isolated

Two registries are alike for a platform if they give every type the same rule there, or none.
Of a rule only what the platform sees of it counts: its renames of style attributes that do
not apply there may differ, and having no list of them is having none (`Rule.restrict`). A page
is generated for a platform in the same way with registries that are alike for it
(`generatePage_congr`), and so is a whole project (`generateProject_congr`), since everything that
generation reads of a registry is the rule for a node (`visit_congr`, `markup_congr`,
`firstUnsupported?_congr`).

What happens to a registry comes down to a list of changes for a platform:

| event | change for the platform |
| --- | --- |
| a mapping with a rule for it | the type has this rule, as the platform sees it |
| a mapping without one, overriding | the type has no custom rule |
| a mapping without one, merged in | none |
| a clearing | no type has a custom rule |

The custom rules that a platform sees follow this list (`customView_replay`). So what is
registered, changed or overridden for other platforms makes no difference to it
(`generatePage_isolated`).
-/

import Pagewright.Proofs.Generation.Outcome
import Pagewright.Proofs.Registry.History
import Mathlib.Data.List.Find

namespace Pagewright

namespace Mapping.Rule

/-- What a platform sees of a rule: of its renames of style attributes those that apply there. -/
def restrict (rule : Rule) (p : Platform) : Rule :=
  { rule with styles := some ((rule.styles.getD []).filter (·.appliesTo p)) }

end Mapping.Rule

open Mapping (Rule)

/-- Two registries give every type the same rule for a platform, as the platform sees it, or
both give it none. -/
def Registry.Alike (p : Platform) (r r' : Registry) : Prop :=
  ∀ type, (r.get? type p).map (·.restrict p) = (r'.get? type p).map (·.restrict p)

namespace Registry.Alike

variable {p : Platform} {r r' : Registry}

/-- The rules for a type, of registries that are alike: there are none, or both look the same. -/
theorem get?_cases (h : Alike p r r') (type : String) :
    (r.get? type p = none ∧ r'.get? type p = none) ∨
      ∃ rule rule', r.get? type p = some rule ∧ r'.get? type p = some rule' ∧
        rule.restrict p = rule'.restrict p := by
  have htype := h type
  cases hr : r.get? type p with
  | none =>
    rw [hr, Option.map_none, eq_comm, Option.map_eq_none_iff] at htype
    exact .inl ⟨rfl, htype⟩
  | some rule =>
    rw [hr, Option.map_some, eq_comm, Option.map_eq_some_iff] at htype
    obtain ⟨rule', hr', heq⟩ := htype
    exact .inr ⟨rule, rule', rfl, hr', heq.symm⟩

end Registry.Alike

/-! ## Generation reads what the platform sees -/

namespace Lowering

open Registry (Alike)

variable {p : Platform} {r r' : Registry} {rule rule' : Rule}

/-- **The first rename that applies** is also the first one among those that apply. -/
theorem renameStyle_filter (mappings : List Mapping.StyleMapping) (e : String × Json) :
    renameStyle (mappings.filter (·.appliesTo p)) p e = renameStyle mappings p e := by
  have hfind : ((mappings.filter (·.appliesTo p)).find? fun m =>
      m.source == e.1 && m.appliesTo p) =
        mappings.find? fun m => m.source == e.1 && m.appliesTo p := by
    rw [List.find?_filter]
    refine List.find?_congr fun m _ => ?_
    rw [Bool.eq_iff_iff, decide_eq_true_iff, Bool.and_eq_true, and_left_comm, and_self]
  rw [renameStyle, hfind, renameStyle]

/-- **A style map** is renamed by what the platform sees of the rule. Without a list of renames
it stays as it is, and so it does with an empty one. -/
theorem renameStyles_restrict (styles : Dict String Json) (rule : Rule) :
    renameStyles styles (rule.restrict p) p = renameStyles styles rule p := by
  unfold renameStyles Rule.restrict
  cases rule.styles with
  | some mappings =>
    have hrename : renameStyle (mappings.filter (·.appliesTo p)) p = renameStyle mappings p :=
      funext (renameStyle_filter mappings)
    simp only [Option.getD_some, hrename]
  | none =>
    have hid : renameStyle [] p = id := rfl
    simp only [Option.getD_none, List.filter_nil, hid, List.map_id]
    exact Dict.ext_entries (Dict.entries_ofList_of_nodup styles.nodup)

/-- Rules that look the same rename a style map alike. -/
theorem renameStyles_congr (h : rule.restrict p = rule'.restrict p) (styles : Dict String Json) :
    renameStyles styles rule p = renameStyles styles rule' p := by
  rw [← renameStyles_restrict styles rule, h, renameStyles_restrict]

/-- What is collected for a node does not read the renames of the rule. -/
theorem collect_congr (h : rule.restrict p = rule'.restrict p) (context : Context)
    (styles : Dict String Json) :
    collect context p rule styles = collect context p rule' styles := by
  change collect context p (rule.restrict p) styles = collect context p (rule'.restrict p) styles
  rw [h]

/-- The markup of a node does not read the renames of the rule, once its styles are renamed. -/
theorem build_congr (h : rule.restrict p = rule'.restrict p) (props : Dict String PropValue)
    (styles : Dict String Json) (children : List Markup) :
    build p rule (lowerProps props rule) styles children =
      build p rule' (lowerProps props rule') styles children := by
  change build p (rule.restrict p) (lowerProps props (rule.restrict p)) styles children =
    build p (rule'.restrict p) (lowerProps props (rule'.restrict p)) styles children
  rw [h]

/-- Registries that are alike have the same first unsupported node. -/
theorem firstUnsupported?_congr (h : Alike p r r') :
    firstUnsupported? r p = firstUnsupported? r' p := by
  have hnone : ∀ c : Component, (r.get? c.type p).isNone = (r'.get? c.type p).isNone := by
    intro c
    rcases h.get?_cases c.type with ⟨hr, hr'⟩ | ⟨rule, rule', hr, hr', -⟩ <;> rw [hr, hr']
    rfl
  funext nodes
  simp only [firstUnsupported?, hnone]

/-- **What a node adds** to the context is the same with registries that are alike. -/
theorem visit_congr (h : Alike p r r') : visit r p = visit r' p := by
  funext context c
  unfold visit
  rcases h.get?_cases c.type with ⟨hr, hr'⟩ | ⟨rule, rule', hr, hr', heq⟩
  · rw [hr, hr']
  · rw [hr, hr']
    simp only [renameStyles_congr heq, collect_congr heq]

mutual

/-- **The markup of a tree** is the same with registries that are alike. -/
theorem markup_congr (h : Alike p r r') : ∀ c : Component, markup r p c = markup r' p c
  | ⟨_, type, _, props, style, children⟩ => by
    rw [markup, markup, markupOfAll_congr h children]
    rcases h.get?_cases type with ⟨hr, hr'⟩ | ⟨rule, rule', hr, hr', heq⟩
    · rw [hr, hr']
    · rw [hr, hr']
      simp only [renameStyles_congr heq, build_congr heq]

/-- The markup of trees is the same with registries that are alike. -/
theorem markupOfAll_congr (h : Alike p r r') : ∀ cs : List Component,
    markupOfAll r p cs = markupOfAll r' p cs
  | [] => rfl
  | c :: cs => by rw [markupOfAll, markupOfAll, markup_congr h c, markupOfAll_congr h cs]

end

end Lowering

namespace Generation

open Registry (Alike)

variable {p : Platform} {r r' : Registry}

/-- **A page** is generated alike, or fails alike, with registries that are alike. -/
theorem generatePage_congr (h : Alike p r r') (page : Page) (name : String) :
    generatePage r page p name = generatePage r' page p name := by
  simp only [generatePage_eq, pageOf, Lowering.firstUnsupported?_congr h, Lowering.visit_congr h,
    Lowering.markup_congr h]

/-- **A project** is generated alike, or fails alike, with registries that are alike. -/
theorem generateProject_congr (h : Alike p r r') (pages : List Page) (config : Project.Config) :
    generateProject r pages p config = generateProject r' pages p config := by
  have hplaced : generatePlaced r p = generatePlaced r' p := by
    funext e
    rw [generatePlaced, generatePlaced, generatePage_congr h]
  rw [generateProject, generateProject, hplaced]

end Generation

/-! ## What happens to a registry, seen by a platform -/

namespace Registry

/-- The custom rules that a platform sees. -/
def customView (r : Registry) (p : Platform) (type : String) : Option Rule :=
  (r.customRule? type p).map (·.restrict p)

/-- A change of the custom rules that a platform sees. -/
inductive Change where
  | set (type : String) (rule : Option Rule)
  | cleared

/-- The custom rules after a change. -/
def Change.apply (view : String → Option Rule) : Change → String → Option Rule
  | .set type rule => Function.update view type rule
  | .cleared => fun _ => none

/-- What an event changes for a platform. A mapping without a rule for it changes something only
if it displaces the mapping that the type had. -/
def Event.change? (p : Platform) : Event → Option Change
  | .registered m override =>
    match m.rule? p with
    | some rule => some (.set m.type (some (rule.restrict p)))
    | none => if override then some (.set m.type none) else none
  | .cleared => some .cleared

/-- What operations change for a platform, in order. -/
def changes (p : Platform) (ops : List Operation) : List Change :=
  (history ops).filterMap (Event.change? p)

variable {r r' : Registry} {p : Platform}

/-- **One event** changes for a platform what it is said to change. -/
theorem customView_happen (e : Event) :
    (r.happen e).customView p =
      (e.change? p).toList.foldl Change.apply (r.customView p) := by
  funext type
  cases e with
  | cleared => rfl
  | registered m override =>
    rw [customView, happen, customRule?_registerOne, Event.change?]
    cases hm : m.rule? p with
    | some rule =>
      change _ = Function.update (r.customView p) m.type _ type
      by_cases ht : type = m.type
      · subst ht
        rw [if_pos rfl, Option.some_or, Option.map_some, Function.update_self]
      · rw [if_neg ht, Function.update_of_ne ht]
        rfl
    | none =>
      cases override with
      | false =>
        rw [Option.none_or, if_neg Bool.false_ne_true, ite_self]
        rfl
      | true =>
        change _ = Function.update (r.customView p) m.type none type
        by_cases ht : type = m.type
        · subst ht
          rw [if_pos rfl, if_pos rfl, Option.none_or, Option.map_none, Function.update_self]
        · rw [if_neg ht, Function.update_of_ne ht]
          rfl

/-- **A whole history** changes for a platform what its events do, one after the other. -/
theorem customView_replay (h : List Event) :
    (r.replay h).customView p =
      (h.filterMap (Event.change? p)).foldl Change.apply (r.customView p) := by
  induction h generalizing r with
  | nil => rfl
  | cons e h ih =>
    have hlist : (e :: h).filterMap (Event.change? p) =
        (e.change? p).toList ++ h.filterMap (Event.change? p) := by
      rw [List.filterMap_cons]
      cases e.change? p <;> rfl
    rw [hlist, List.foldl_append, ← customView_happen, ← ih]
    rfl

/-- Registries are alike if they have the same built-in rules and the platform sees the same
custom rules. -/
theorem alike_of_customView (hbuiltins : r.builtins = r'.builtins)
    (hcustom : r.customView p = r'.customView p) : Alike p r r' := by
  intro type
  have hget : ∀ s : Registry, (s.get? type p).map (·.restrict p) =
      (s.customView p type).or
        (((s.builtins.get? type).bind (·.rule? p)).map (·.restrict p)) := by
    intro s
    rw [get?, Option.map_or]
    rfl
  rw [hget, hget, hcustom, hbuiltins]

/-- **Operations that change the same for a platform** make registries that are alike for it. -/
theorem alike_run {ops ops' : List Operation} (h : changes p ops = changes p ops') :
    Alike p (r.run ops) (r.run ops') := by
  rw [run_eq_replay, run_eq_replay]
  refine alike_of_customView ?_ ?_
  · rw [builtins_replay, builtins_replay]
  · rw [customView_replay, customView_replay]
    exact congrArg _ h

/-- An event does not concern a platform: it registers a mapping without a rule for it, and if
this overrides, it displaces no rule for it. -/
def Event.IsForeign (p : Platform) (r : Registry) : Event → Prop
  | .registered m override => m.rule? p = none ∧ (override → r.customRule? m.type p = none)
  | .cleared => False

/-- **One event that does not concern a platform** leaves the rules for it as they are. -/
theorem customRule?_happen_of_isForeign {e : Event} (h : e.IsForeign p r) (type : String) :
    (r.happen e).customRule? type p = r.customRule? type p := by
  cases e with
  | cleared => exact h.elim
  | registered m override =>
    obtain ⟨hm, hdisplaced⟩ := h
    rw [happen, customRule?_registerOne, hm, Option.none_or]
    split
    · next ht =>
      subst ht
      cases override with
      | false => rfl
      | true => exact (hdisplaced rfl).symm
    · rfl

/-- **Events that do not concern a platform** leave the rules for it as they are. None of them
makes a rule for it that a later one could displace. -/
theorem customRule?_replay_of_isForeign {h : List Event} (hforeign : ∀ e ∈ h, e.IsForeign p r)
    (type : String) : (r.replay h).customRule? type p = r.customRule? type p := by
  induction h generalizing r with
  | nil => rfl
  | cons e h ih =>
    obtain ⟨he, hrest⟩ := List.forall_mem_cons.1 hforeign
    have hstep := customRule?_happen_of_isForeign he
    have hlater : ∀ e' ∈ h, e'.IsForeign p (r.happen e) := by
      intro e' he'
      cases e' with
      | cleared => exact (hrest _ he').elim
      | registered m override =>
        exact ⟨(hrest _ he').1, fun ho => (hstep m.type).trans ((hrest _ he').2 ho)⟩
    exact (ih hlater).trans (hstep type)

/-- Operations that are foreign to a platform leave a registry alike for it. -/
theorem alike_run_of_isForeign {ops : List Operation}
    (h : ∀ e ∈ history ops, e.IsForeign p r) : Alike p (r.run ops) r := by
  rw [run_eq_replay]
  refine alike_of_customView (builtins_replay _ _) (funext fun type => ?_)
  rw [customView, customView, customRule?_replay_of_isForeign h]

end Registry

namespace Generation

open Registry (Alike Operation changes history)

/-- **Platforms are isolated.** A page comes out the same for a platform, or fails for the same
reason, with any two registries that are alike for it; it does after any operations on a
registry that change the same for the platform; and operations that do not concern the platform
do not change how it comes out at all. -/
theorem generatePage_isolated (p : Platform) (page : Page) (name : String) :
    (∀ r r', Alike p r r' → generatePage r page p name = generatePage r' page p name) ∧
    (∀ (r : Registry) ops ops', changes p ops = changes p ops' →
      generatePage (r.run ops) page p name = generatePage (r.run ops') page p name) ∧
    ∀ (r : Registry) ops, (∀ e ∈ history ops, e.IsForeign p r) →
      generatePage (r.run ops) page p name = generatePage r page p name :=
  ⟨fun _ _ h => generatePage_congr h page name,
    fun _ _ _ h => generatePage_congr (Registry.alike_run h) page name,
    fun _ _ h => generatePage_congr (Registry.alike_run_of_isForeign h) page name⟩

/-- Registers a grid, with renames for the browser and with a tag for a mini program. -/
def gridOps (renames : Option (List Mapping.StyleMapping)) (tag : String) : List Operation :=
  [.register [((Mapping.ofType "Grid").withRule .h5 ⟨"Grid", "@acme/ui", none, renames⟩).withRule
    .weapp (.imported tag "@acme/ui")] false]

/-- A rename of a grid's style attribute, for a mini program only. -/
def gridRename : Mapping.StyleMapping := ⟨"gap", "columnGap", none, some [.weapp]⟩

/-- Puts another container in the place of the one of a mini program. -/
def containerOps : List Operation :=
  [.register [(Mapping.ofType "Container").withRule .weapp (.imported "Box" "@acme/ui")] true]

/-- A container with a grid in it. -/
def gridPage : Page :=
  ⟨"Home", none, some { Component.leaf "root" "Container" with
    children := [{ Component.leaf "grid" "Grid" with
      style := .ofList [("gap", .string "8px")] }] }⟩

/-- The hypotheses of `generatePage_isolated` are satisfiable: rules of a mini program that are
not the same, and a rename for it, do not change a page for the browser. For the mini program
the page changes. -/
theorem gridPage_isolated :
    let r := Registry.standard.run (gridOps (some [gridRename]) "Grid")
    let r' := Registry.standard.run (gridOps none "Cells")
    Alike .h5 r r' ∧ generatePage r gridPage .h5 "home" = generatePage r' gridPage .h5 "home" ∧
      generatePage (r.run containerOps) gridPage .h5 "home" = generatePage r gridPage .h5 "home" ∧
      ¬ Alike .weapp r r' ∧
      generatePage r gridPage .weapp "home" ≠ generatePage r' gridPage .weapp "home" := by
  intro r r'
  have hchanges : changes .h5 (gridOps (some [gridRename]) "Grid") =
      changes .h5 (gridOps none "Cells") := rfl
  have halike : Alike .h5 r r' := Registry.alike_run hchanges
  have hforeign : ∀ e ∈ history containerOps, e.IsForeign .h5 r := by
    intro e he
    obtain rfl := List.mem_singleton.1 he
    exact ⟨rfl, fun _ => rfl⟩
  obtain ⟨hany, hops, hother⟩ := generatePage_isolated .h5 gridPage "home"
  have hdiffer :
      generatePage r gridPage .weapp "home" ≠ generatePage r' gridPage .weapp "home" := by
    intro heq
    have htags := congrArg (fun o => o.toOption.map fun output => output.markup.tagNames) heq
    have hgrid : ((generatePage r gridPage .weapp "home").toOption.map fun output =>
        output.markup.tagNames) = some ["View", "Grid"] := rfl
    have hcells : ((generatePage r' gridPage .weapp "home").toOption.map fun output =>
        output.markup.tagNames) = some ["View", "Cells"] := rfl
    simp only [hgrid, hcells] at htags
    exact absurd htags (by decide)
  refine ⟨halike, hops _ _ _ hchanges, hother _ _ hforeign, fun hmini => ?_, hdiffer⟩
  exact hdiffer ((generatePage_isolated .weapp gridPage "home").1 r r' hmini)

end Generation
end Pagewright
