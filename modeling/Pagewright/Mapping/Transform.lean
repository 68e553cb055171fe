/-
# Value transforms

A transform changes a value while its prop or style attribute is renamed. A
literal is transformed at once; code is opaque, so the transform is written
around it:

| transform | literal `v` | code `E` |
| --- | --- | --- |
| `choose a b c` | `b` if `v` equals `a`, else `c` | `(E) === a ? b : c` |
| `template t` | `t` with `{}` replaced by the text of `v` | a template literal with `${E}` for `{}` |
| `not` | whether `v` is falsy | `!(E)` |
| `wrap k` | the object `{ k: v }` | `{ "k": E }` |
| `custom f` | `f v` | `f E` |

Equality of literals is `Json.same`. Custom transforms are told apart by
identity only.
-/

import Pagewright.Component.PropValue
import Pagewright.Text.Inspect

namespace Pagewright

/-- A change of a value while it is renamed. -/
inductive Transform where
  | choose (equals thenValue otherwise : Json)
  | template (text : String)
  | not
  | wrap (key : String)
  /-- A function registered from code, with the identity it got there. -/
  | custom (identity : Nat) (run : PropValue → PropValue)

namespace Transform

/-- The place in a template that the value takes. -/
def hole : List Char := ['\x7b', '\x7d']

/-- The text of a literal in a template. -/
def literalText : Json → String
  | .string s => s
  | v => v.compact

/-- A template with every hole filled. -/
def fill (template filling : List Char) : List Char := Text.replaceAll hole filling template

/-- The value that a transform makes of a value. -/
def run : Transform → PropValue → PropValue
  | .custom _ f, v => f v
  | .choose equals thenValue otherwise, .literal v =>
    .literal (if v.same equals then thenValue else otherwise)
  | .choose equals thenValue otherwise, .expression code =>
    .expression ("(" ++ code ++ ") === " ++ equals.compact ++ " ? " ++ thenValue.compact ++
      " : " ++ otherwise.compact)
  | .template text, .literal v =>
    .literal (.string (String.ofList (fill text.toList (literalText v).toList)))
  | .template text, .expression code =>
    let escaped := Text.replaceAll ['\x60'] ['\\', '\x60'] text.toList
    let body := fill escaped ("$\x7b" ++ code ++ "\x7d").toList
    .expression ("\x60" ++ String.ofList body ++ "\x60")
  | .not, .literal v => .literal (.bool !(PropValue.literal v).isTruthy)
  | .not, .expression code => .expression ("!(" ++ code ++ ")")
  | .wrap key, .literal v => .literal (.object [(key, v)])
  | .wrap key, .expression code =>
    .expression ("\x7b " ++ Json.quote key ++ ": " ++ code ++ " \x7d")

/-- Whether two transforms are the same one. -/
def same : Transform → Transform → Bool
  | .choose a b c, .choose x y z => a.same x && b.same y && c.same z
  | .template a, .template b => a == b
  | .not, .not => true
  | .wrap a, .wrap b => a == b
  | .custom i _, .custom j _ => i == j
  | _, _ => false

mutual

/-- A JSON value with the kind of every part spelled out. -/
def inspectJson : Json → String
  | .null => "Null"
  | .bool b => "Bool(" ++ (if b then "true" else "false") ++ ")"
  | .number n => "Number(" ++ n.toText ++ ")"
  | .string s => "String(" ++ Text.inspect s ++ ")"
  | .array items => "Array [" ++ Text.join ", " (inspectItems items) ++ "]"
  | .object fields => "Object \x7b" ++ Text.join ", " (inspectFields fields) ++ "\x7d"

/-- The items of an array with their kinds. -/
def inspectItems : List Json → List String
  | [] => []
  | x :: xs => inspectJson x :: inspectItems xs

/-- The fields of an object with their kinds. -/
def inspectFields : List (String × Json) → List String
  | [] => []
  | (k, v) :: rest => (Text.inspect k ++ ": " ++ inspectJson v) :: inspectFields rest

end

/-- A transform with its parts, for inspection. -/
def inspect : Transform → String
  | .choose a b c =>
    "Choose \x7b equals: " ++ inspectJson a ++ ", then: " ++ inspectJson b ++ ", otherwise: " ++
      inspectJson c ++ " \x7d"
  | .template text => "Template(" ++ Text.inspect text ++ ")"
  | .not => "Not"
  | .wrap key => "Wrap(" ++ Text.inspect key ++ ")"
  | .custom _ _ => "Custom(..)"

/-- The choice between two texts by comparison with a third. -/
def chooseText (equals thenValue otherwise : String) : Transform :=
  .choose (.string equals) (.string thenValue) (.string otherwise)

end Transform
end Pagewright
