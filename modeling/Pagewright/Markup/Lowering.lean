/-
# Lowering

A component tree is lowered with the rules of a registry. Each node becomes the
tag of the rule for its type:

* with a list of prop mappings, the active ones (whose source the node sets) write
  their targets in order, then follow the props that are the source of no mapping,
  under their own names; a target that is written keeps its value;
* a literal text under `children` becomes the first child;
* style attributes are renamed by the first mapping for them on the platform, then
  adapted, and what the platform drops is reported.

The first node in pre-order whose type has no rule for the platform stops lowering.
-/

import Pagewright.Component.Basic
import Pagewright.Generation.Context
import Pagewright.Generation.Failure
import Pagewright.Mapping.Registry
import Pagewright.Markup.Basic
import Pagewright.Style.Adapt

namespace Pagewright
namespace Lowering

open Generation (Failure)

/-- The prop that holds the text of a node. -/
def childrenProp : String := "children"

/-- The targets that the active mappings of a rule write. -/
def mappedProps (props : Dict String PropValue) (mappings : List Mapping.PropMapping) :
    Dict String PropValue :=
  .ofList (mappings.filterMap fun m => (props.get? m.source).map fun v => (m.target, m.value v))

/-- The props that are the source of no mapping. -/
def freeProps (props : Dict String PropValue) (mappings : List Mapping.PropMapping) :
    Dict String PropValue :=
  props.filter fun e => !mappings.any fun m => m.source == e.1

/-- The props of a node under a rule. -/
def lowerProps (props : Dict String PropValue) (rule : Mapping.Rule) : Dict String PropValue :=
  match rule.props with
  | none => props
  | some mappings =>
    (freeProps props mappings).entries.foldl
      (fun d e => if d.contains e.1 then d else d.insert e.1 e.2) (mappedProps props mappings)

/-- A style attribute under the mappings of a rule. -/
def renameStyle (mappings : List Mapping.StyleMapping) (p : Platform) (e : String × Json) :
    String × Json :=
  match mappings.find? fun m => m.source == e.1 && m.appliesTo p with
  | some m => (m.target, m.value e.2)
  | none => e

/-- The style map of a node under a rule, not yet adapted. -/
def renameStyles (styles : Dict String Json) (rule : Mapping.Rule) (p : Platform) :
    Dict String Json :=
  match rule.styles with
  | none => styles
  | some mappings => .ofList (styles.entries.map (renameStyle mappings p))

/-- The text that props hold for the node. -/
def ownText? (props : Dict String PropValue) : Option String :=
  (props.get? childrenProp).bind PropValue.text?

/-- What lowering of a node collects, its children aside. -/
def collect (context : Context) (p : Platform) (rule : Mapping.Rule)
    (styles : Dict String Json) : Context :=
  let used := if rule.isIntrinsic then context else context.useTag rule.importPath rule.tag
  used.report (Style.droppedIn p styles)

/-- A lowered node, given its lowered children. -/
def build (p : Platform) (rule : Mapping.Rule) (props : Dict String PropValue)
    (styles : Dict String Json) (children : List Markup) : Markup :=
  let kind : Markup.Kind := if rule.isIntrinsic then .element else .component
  let styles := Style.adapt p styles
  match ownText? props with
  | some text =>
    ⟨kind, rule.tag, props.erase childrenProp, styles, none, Markup.ofText text :: children⟩
  | none => ⟨kind, rule.tag, props, styles, none, children⟩

mutual

/-- Lowers a node and all below it. -/
def lowerNode (r : Registry) (p : Platform) (context : Context) :
    Component → Except Failure (Markup × Context)
  | ⟨_, type, _, props, style, children⟩ =>
    match r.get? type p with
    | none => .error (.unsupported type p)
    | some rule =>
      let styles := renameStyles style rule p
      match lowerAll r p (collect context p rule styles) children with
      | .error f => .error f
      | .ok (lowered, after) =>
        .ok (build p rule (lowerProps props rule) styles lowered, after)

/-- Lowers nodes one after the other. -/
def lowerAll (r : Registry) (p : Platform) (context : Context) :
    List Component → Except Failure (List Markup × Context)
  | [] => .ok ([], context)
  | c :: cs =>
    match lowerNode r p context c with
    | .error f => .error f
    | .ok (m, after) =>
      match lowerAll r p after cs with
      | .error f => .error f
      | .ok (ms, last) => .ok (m :: ms, last)

end

/-- Lowers a tree, starting with nothing collected. -/
def lower (r : Registry) (p : Platform) (root : Component) :
    Except Failure (Markup × Context) :=
  lowerNode r p .empty root

end Lowering
end Pagewright
