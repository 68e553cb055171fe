/-
# Prop values

The value of a prop is code, taken over verbatim into generated source, or a
literal. In page files code is written as an object with the single key
`$expr`, or as an array with one string; everything else is a literal.
-/

import Pagewright.Json.Document
import Pagewright.Json.Printer

namespace Pagewright

/-- The value of a component prop. -/
inductive PropValue where
  | expression (code : String)
  | literal (v : Json)
deriving DecidableEq, Inhabited

namespace PropValue

/-- The text of a string literal. -/
def text? : PropValue → Option String
  | .literal (.string s) => some s
  | _ => none

/-- Whether the value is code. -/
def isExpression : PropValue → Bool
  | .expression _ => true
  | .literal _ => false

/-- Whether the value is the literal `null`, which needs no attribute. -/
def isNull : PropValue → Bool
  | .literal .null => true
  | _ => false

/-- JavaScript truthiness; code counts as true. -/
def isTruthy : PropValue → Bool
  | .expression _ => true
  | .literal .null => false
  | .literal (.bool b) => b
  | .literal (.number n) => !n.isZero
  | .literal (.string s) => s != ""
  | .literal (.array _) | .literal (.object _) => true

/-- The value as it stands in source text: code verbatim, a literal as compact JSON. -/
def source : PropValue → String
  | .expression code => code
  | .literal v => v.compact

/-- The key that marks code in page files. -/
def expressionKey : String := "$expr"

/-- The value in its JSON form. -/
def toJson : PropValue → Json
  | .expression code => .object [(expressionKey, .string code)]
  | .literal v => v

/-- The code that a node of a document spells, if it spells code. -/
def code? : Json.Node → Option String
  | .object _ [(key, .string _ code)] =>
    match key.text, code.text with
    | .ok k, .ok code => if k = expressionKey then some code else none
    | _, _ => none
  | .array _ [.string _ code] => code.text.toOption
  | _ => none

/-- The value that a node of a document stands for. -/
def ofNode (room : Nat) (node : Json.Node) : Except Nat PropValue := do
  let v ← node.toJson room
  pure (match code? node with
    | some code => .expression code
    | none => .literal v)

/-- The value that a JSON value stands for. Only a text is limited in depth. -/
def ofJson (v : Json) : Except Nat PropValue := ofNode v.depth (.ofJson v)

/-- The value that a JSON text stands for. -/
def parse (s : String) : Except Nat PropValue :=
  (Json.Document.ofString s).value (ofNode Json.maxDepth)

end PropValue
end Pagewright
