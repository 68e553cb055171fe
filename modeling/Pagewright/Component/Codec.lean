/-
# The JSON form of components and pages

A component is an object with the fields below, or an array of their values in
this order; a missing field, or a missing end of the array, takes the default.

| component | default | page | default |
| --- | --- | --- | --- |
| `id` | the empty text | `name` | the empty text |
| `type` | the empty text | `title` | none (also for `null`) |
| `name` | the empty text | `components` | none (also for `null`) |
| `props` | none | | |
| `style` | none | | |
| `children` | none | | |

Fields of other names are skipped. A field that is given twice and a value after
the last field of an array are faults. A fault is the number of bytes taken from
the text when it is noticed. A document is read in order, so that the first fault
counts, be it one of meaning or a defect of the text (`Json.Node.broken`).
-/

import Pagewright.Component.Basic

namespace Pagewright

open Json (Key Node)

namespace Json.Node

/-- The bytes taken when a node turns out not to be of the kind asked for. A word,
numeral or string is read first; a bracket is not taken. -/
def mismatch : Node → Nat
  | .null e | .bool e _ => e.stop
  | .number e n =>
    match n with
    | .ok _ => e.stop
    | .error taken => taken
  | .string e s =>
    match s.text with
    | .ok _ => e.stop
    | .error taken => taken
  | .array start _ | .object start _ => start
  | .broken _ taken => taken

/-- The text of a string. -/
def text : Node → Except Nat String
  | .string _ s => s.text
  | n => .error n.mismatch

/-- A value that may be `null`. -/
def optional (read : Node → Except Nat α) : Node → Except Nat (Option α)
  | .null _ => .ok none
  | n => (read n).map some

/-- The entries of an object whose values are read by `read`. -/
def entries (read : Node → Except Nat α) : List (Key × Node) → Except Nat (List (String × α))
  | [] => .ok []
  | (k, n) :: rest => do
    let key ← k.text
    let v ← read n
    let others ← entries read rest
    pure ((key, v) :: others)

/-- An object as a dictionary. -/
def dict (room : Nat) (read : Nat → Node → Except Nat α) : Node → Except Nat (Dict String α)
  | .object start fields =>
    if room = 0 then .error (start + 1)
    else (entries (read (room - 1)) fields).map Dict.ofList
  | n => .error n.mismatch

end Json.Node

namespace Component

/-- The fields of a component that have been read. -/
structure Draft where
  id : Option String := none
  type : Option String := none
  name : Option String := none
  props : Option (Dict String PropValue) := none
  style : Option (Dict String Json) := none
  children : Option (List Component) := none

/-- The component of a draft. -/
def Draft.complete (d : Draft) : Component :=
  ⟨d.id.getD "", d.type.getD "", d.name.getD "", d.props.getD ∅, d.style.getD ∅,
    d.children.getD []⟩

mutual

/-- The component that a node of a document stands for. -/
def ofNode (room : Nat) : Node → Except Nat Component
  | .object start fields =>
    if room = 0 then .error (start + 1) else ofFields (room - 1) {} fields
  | .array start items =>
    if room = 0 then .error (start + 1) else ofItems (room - 1) {} 0 items
  | n => .error n.mismatch

/-- The list of components that a node of a document stands for. -/
def listOfNode (room : Nat) : Node → Except Nat (List Component)
  | .array start items => if room = 0 then .error (start + 1) else listOfItems (room - 1) items
  | n => .error n.mismatch

/-- The components that the items of an array stand for. -/
def listOfItems (room : Nat) : List Node → Except Nat (List Component)
  | [] => .ok []
  | n :: rest => do
    let c ← ofNode room n
    let cs ← listOfItems room rest
    pure (c :: cs)

/-- Reads the fields of an object on top of a draft. -/
def ofFields (room : Nat) (d : Draft) : List (Key × Node) → Except Nat Component
  | [] => .ok d.complete
  | (k, n) :: rest => do
    match ← k.text with
    | "id" =>
      if d.id.isSome then throw k.reach
      let v ← n.text
      ofFields room { d with id := some v } rest
    | "type" =>
      if d.type.isSome then throw k.reach
      let v ← n.text
      ofFields room { d with type := some v } rest
    | "name" =>
      if d.name.isSome then throw k.reach
      let v ← n.text
      ofFields room { d with name := some v } rest
    | "props" =>
      if d.props.isSome then throw k.reach
      let v ← n.dict room PropValue.ofNode
      ofFields room { d with props := some v } rest
    | "style" =>
      if d.style.isSome then throw k.reach
      let v ← n.dict room Node.toJson
      ofFields room { d with style := some v } rest
    | "children" =>
      if d.children.isSome then throw k.reach
      let v ← listOfNode room n
      ofFields room { d with children := some v } rest
    | _ =>
      n.skip
      ofFields room d rest

/-- Reads the items of an array on top of a draft, the first for the field `index`. -/
def ofItems (room : Nat) (d : Draft) (index : Nat) : List Node → Except Nat Component
  | [] => .ok d.complete
  | n :: rest => do
    match index with
    | 0 => ofItems room { d with id := some (← n.text) } 1 rest
    | 1 => ofItems room { d with type := some (← n.text) } 2 rest
    | 2 => ofItems room { d with name := some (← n.text) } 3 rest
    | 3 => ofItems room { d with props := some (← n.dict room PropValue.ofNode) } 4 rest
    | 4 => ofItems room { d with style := some (← n.dict room Node.toJson) } 5 rest
    | 5 => ofItems room { d with children := some (← listOfNode room n) } 6 rest
    | _ => .error n.surplus

end

/-- The component that a JSON value stands for. Only a text is limited in depth. -/
def ofJson (v : Json) : Except Nat Component := ofNode v.depth (.ofJson v)

/-- The component that a JSON text stands for. -/
def parse (s : String) : Except Nat Component :=
  (Json.Document.ofString s).value (ofNode Json.maxDepth)

mutual

/-- A component in its JSON form. -/
def toJson : Component → Json
  | ⟨id, type, name, props, style, children⟩ =>
    .object [
      ("id", .string id),
      ("type", .string type),
      ("name", .string name),
      ("props", .ofDict (props.map PropValue.toJson)),
      ("style", .ofDict style),
      ("children", .array (toJsonAll children))]

/-- Components in their JSON form. -/
def toJsonAll : List Component → List Json
  | [] => []
  | c :: cs => toJson c :: toJsonAll cs

end

end Component

namespace Page

/-- The fields of a page that have been read. -/
structure Draft where
  name : Option String := none
  title : Option (Option String) := none
  components : Option (Option Component) := none

/-- The page of a draft. -/
def Draft.complete (d : Draft) : Page :=
  ⟨d.name.getD "", d.title.getD none, d.components.getD none⟩

/-- Reads the fields of an object on top of a draft. -/
def ofFields (room : Nat) (d : Draft) : List (Key × Node) → Except Nat Page
  | [] => .ok d.complete
  | (k, n) :: rest => do
    match ← k.text with
    | "name" =>
      if d.name.isSome then throw k.reach
      let v ← n.text
      ofFields room { d with name := some v } rest
    | "title" =>
      if d.title.isSome then throw k.reach
      let v ← n.optional Node.text
      ofFields room { d with title := some v } rest
    | "components" =>
      if d.components.isSome then throw k.reach
      let v ← n.optional (Component.ofNode room)
      ofFields room { d with components := some v } rest
    | _ =>
      n.skip
      ofFields room d rest

/-- Reads the items of an array on top of a draft, the first for the field `index`. -/
def ofItems (room : Nat) (d : Draft) (index : Nat) : List Node → Except Nat Page
  | [] => .ok d.complete
  | n :: rest => do
    match index with
    | 0 => ofItems room { d with name := some (← n.text) } 1 rest
    | 1 => ofItems room { d with title := some (← n.optional Node.text) } 2 rest
    | 2 => ofItems room { d with components := some (← n.optional (Component.ofNode room)) } 3 rest
    | _ => .error n.surplus

/-- The page that a node of a document stands for. -/
def ofNode (room : Nat) : Node → Except Nat Page
  | .object start fields =>
    if room = 0 then .error (start + 1) else ofFields (room - 1) {} fields
  | .array start items =>
    if room = 0 then .error (start + 1) else ofItems (room - 1) {} 0 items
  | n => .error n.mismatch

/-- The page that a JSON value stands for. Only a text is limited in depth. -/
def ofJson (v : Json) : Except Nat Page := ofNode v.depth (.ofJson v)

/-- The page that a JSON text stands for. -/
def parse (s : String) : Except Nat Page :=
  (Json.Document.ofString s).value (ofNode Json.maxDepth)

/-- A page in its JSON form; an absent title or tree has no field. -/
def toJson (p : Page) : Json :=
  .object ([("name", .string p.name)] ++
    (p.title.map fun t => ("title", Json.string t)).toList ++
    (p.components.map fun c => ("components", c.toJson)).toList)

end Page
end Pagewright
