/-
# Component trees and pages

A page is a name, an optional title and an optional component tree. A node of
the tree has an id, a logical type, an editor label, props in authoring order,
style attributes in authoring order, and its children in render order.

The nodes of a tree stand in depth-first pre-order in `descendants`. A node is
located by the child indices that lead to it from the root: `locate?` follows
them, `walk` lists every node with its location, and the text of a location is
`components.children[1].children[0]`.
-/

import Pagewright.Component.PropValue

namespace Pagewright

/-- A node of an authored component tree. -/
structure Component where
  id : String
  type : String
  name : String
  props : Dict String PropValue
  style : Dict String Json
  children : List Component

/-- A page as it is authored. -/
structure Page where
  name : String
  title : Option String
  components : Option Component

namespace Component

/-- A node of a type without props, styles and children. -/
def leaf (id type : String) : Component := ⟨id, type, "", ∅, ∅, []⟩

instance : Inhabited Component := ⟨leaf "" ""⟩

/-- The node with a prop set. -/
def withProp (c : Component) (key : String) (v : PropValue) : Component :=
  { c with props := c.props.insert key v }

/-- The node with a style attribute set. -/
def withStyle (c : Component) (key : String) (v : Json) : Component :=
  { c with style := c.style.insert key v }

/-- The node with one more child, after the others. -/
def withChild (c child : Component) : Component :=
  { c with children := c.children ++ [child] }

mutual

/-- A node and all below it, in depth-first pre-order. -/
def descendants : Component → List Component
  | ⟨id, type, name, props, style, children⟩ =>
    ⟨id, type, name, props, style, children⟩ :: descendantsOfAll children

/-- The nodes of several trees, one tree after the other. -/
def descendantsOfAll : List Component → List Component
  | [] => []
  | c :: cs => descendants c ++ descendantsOfAll cs

end

/-- The number of nodes of a tree. -/
def nodeCount (c : Component) : Nat := c.descendants.length

/-- The child indices that lead from the root to a node. -/
abbrev Location := List Nat

/-- The text of a location. -/
def Location.toText (location : Location) : String :=
  location.foldl (fun s i => s ++ ".children[" ++ toString i ++ "]") "components"

/-- The node that a location leads to. -/
def locate? (c : Component) : Location → Option Component
  | [] => some c
  | i :: rest => (c.children[i]?).bind fun child => child.locate? rest

mutual

/-- Every node with its location, in depth-first pre-order, for a tree at `location`. -/
def walkFrom (location : Location) : Component → List (Location × Component)
  | ⟨id, type, name, props, style, children⟩ =>
    (location, ⟨id, type, name, props, style, children⟩) :: walkChildren location 0 children

/-- The children of the node at `location` with theirs, the first at `index`. -/
def walkChildren (location : Location) (index : Nat) :
    List Component → List (Location × Component)
  | [] => []
  | c :: cs => walkFrom (location ++ [index]) c ++ walkChildren location (index + 1) cs

end

/-- Every node of a tree with its location, in depth-first pre-order. -/
def walk (c : Component) : List (Location × Component) := walkFrom [] c

end Component

namespace Page

/-- The page with a title. -/
def withTitle (p : Page) (title : String) : Page := { p with title := some title }

/-- Every node of the page with its location; none without a tree. -/
def walk (p : Page) : List (Component.Location × Component) :=
  match p.components with
  | some root => root.walk
  | none => []

end Page
end Pagewright
