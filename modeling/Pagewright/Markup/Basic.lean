/-
# Markup trees

What a component tree becomes on a platform: tags with their props and adapted
styles, and text between them. A node is of one of three kinds: a component is
imported from a module, an element is intrinsic, and text has no tag.
-/

import Pagewright.Component.PropValue

namespace Pagewright
namespace Markup

/-- The kind of a node. -/
inductive Kind where
  | component
  | text
  | element
deriving DecidableEq, Inhabited

/-- The name of a kind. -/
def Kind.name : Kind → String
  | .component => "component"
  | .text => "text"
  | .element => "element"

end Markup

/-- A node of a markup tree; the tag of a text node is empty. -/
structure Markup where
  kind : Markup.Kind
  tag : String
  props : Dict String PropValue
  styles : Dict String Json
  text : Option String
  children : List Markup

namespace Markup

/-- A tag without props, styles and children. -/
def tagged (kind : Kind) (tag : String) : Markup := ⟨kind, tag, ∅, ∅, none, []⟩

/-- A text node. -/
def ofText (text : String) : Markup := ⟨.text, "", ∅, ∅, some text, []⟩

instance : Inhabited Markup := ⟨ofText ""⟩

/-- Whether a node is text. -/
def isText (m : Markup) : Bool := m.kind == .text

/-- The content of a text node. -/
def content (m : Markup) : String := m.text.getD ""

mutual

/-- The tags of a node and of all below it, in pre-order. -/
def tagNames : Markup → List String
  | ⟨kind, tag, _, _, _, children⟩ =>
    (if kind = .text then [] else [tag]) ++ tagNamesOfAll children

/-- The tags of several trees. -/
def tagNamesOfAll : List Markup → List String
  | [] => []
  | m :: ms => tagNames m ++ tagNamesOfAll ms

end

mutual

/-- A node and all below it, in pre-order. -/
def nodes : Markup → List Markup
  | ⟨kind, tag, props, styles, text, children⟩ =>
    ⟨kind, tag, props, styles, text, children⟩ :: nodesOfAll children

/-- The nodes of several trees. -/
def nodesOfAll : List Markup → List Markup
  | [] => []
  | m :: ms => nodes m ++ nodesOfAll ms

end

mutual

/-- The JSON form of a node. -/
def toJson : Markup → Json
  | ⟨kind, tag, props, styles, text, children⟩ =>
    .object ([
      ("kind", .string kind.name),
      ("tag_name", .string tag),
      ("props", .object (props.entries.map fun e => (e.1, e.2.toJson))),
      ("styles", .ofDict styles)] ++
      (match text with
        | some s => [("text", .string s)]
        | none => []) ++
      [("children", .array (toJsonAll children))])

/-- The JSON forms of several nodes. -/
def toJsonAll : List Markup → List Json
  | [] => []
  | m :: ms => toJson m :: toJsonAll ms

end

end Markup
end Pagewright
