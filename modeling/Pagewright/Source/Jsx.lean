/-
# JSX

Markup as JSX text. A tag without children closes itself, a tag whose only child is
text stays on one line, and everything else nests one level for each tag.

| value | attribute |
| --- | --- |
| code `E` | `name={E}` |
| a text without `"`, `&` and line feed | `name="text"` |
| an object | `name={{ key: value }}` |
| any other literal | `name={json}` |
| `null` | none |

Text stands as it is unless it would be read as something else: empty text, text
with blanks at an end, and text with a brace, an angle bracket or a line feed are
written as a JSON string in braces.
-/

import Pagewright.Markup.Basic
import Pagewright.Naming
import Pagewright.Source.Fragment
import Pagewright.Text.Blank

namespace Pagewright
namespace Source
namespace Jsx

/-- Whether a character may begin an identifier. -/
def isIdentifierStart (c : Char) : Bool := Naming.isAsciiLetter c || c == '_' || c == '$'

/-- Whether a character may stand in an identifier. -/
def isIdentifierPart (c : Char) : Bool := isIdentifierStart c || Naming.isAsciiDigit c

/-- Whether a key may stand in an object literal without quotes. -/
def isIdentifier (key : String) : Bool :=
  match key.toList with
  | [] => false
  | c :: rest => isIdentifierStart c && rest.all isIdentifierPart

/-- An entry of an object literal. -/
def objectEntry (e : String × Json) : String :=
  (if isIdentifier e.1 then e.1 else Json.quote e.1) ++ ": " ++ e.2.compact

/-- An object literal. -/
def objectLiteral (entries : List (String × Json)) : String :=
  match entries with
  | [] => "\x7b\x7d"
  | _ => "\x7b " ++ Text.join ", " (entries.map objectEntry) ++ " \x7d"

/-- Text in braces. -/
def braced (s : String) : String := "\x7b" ++ s ++ "\x7d"

/-- Whether an attribute may hold a text between quotes. -/
def isPlainAttribute (s : String) : Bool :=
  s.toList.all fun c => c != '"' && c != '&' && c != '\n'

/-- An attribute. -/
def attributeText (name : String) (v : PropValue) : String :=
  name ++ "=" ++
    match v with
    | .expression code => braced code
    | .literal (.string s) =>
      if isPlainAttribute s then "\"" ++ s ++ "\"" else braced (Json.string s).compact
    | .literal (.object fields) => braced (objectLiteral fields)
    | .literal w => braced w.compact

/-- Whether a character of a text would be read as markup. -/
def isMarkupChar (c : Char) : Bool :=
  c == '\x7b' || c == '\x7d' || c == '<' || c == '>' || c == '\n'

/-- Whether a text stands for itself between tags. -/
def isPlainText (s : String) : Bool :=
  !s.isEmpty && Text.trim s.toList == s.toList && !s.toList.any isMarkupChar

/-- Text between tags. -/
def text (s : String) : String := if isPlainText s then s else braced (Json.quote s)

/-- The attributes of a node: its props but those that are `null`, then its styles. -/
def attributes (m : Markup) : List (String × PropValue) :=
  (m.props.entries.filter fun e => !e.2.isNull) ++
    if m.styles.isEmpty then [] else [("style", .literal (.ofDict m.styles))]

/-- The opening tag of a node without its bracket. -/
def opening (m : Markup) : String :=
  Text.join " " (("<" ++ m.tag) :: (attributes m).map fun e => attributeText e.1 e.2)

/-- The closing tag of a node. -/
def closing (m : Markup) : String := "</" ++ m.tag ++ ">"

mutual

/-- The fragments of a node. -/
def fragments : Markup → List Fragment
  | ⟨kind, tag, props, styles, content, children⟩ =>
    let m : Markup := ⟨kind, tag, props, styles, content, children⟩
    if m.isText then [.line (text m.content)]
    else
      match children with
      | [] => [.line (opening m ++ " />")]
      | [only] =>
        if only.isText then [.line (opening m ++ ">" ++ text only.content ++ closing m)]
        else [.block (opening m ++ ">") (fragments only) (some (closing m))]
      | first :: second :: rest =>
        [.block (opening m ++ ">") (fragments first ++ (fragments second ++ fragmentsOfAll rest))
          (some (closing m))]

/-- The fragments of several nodes. -/
def fragmentsOfAll : List Markup → List Fragment
  | [] => []
  | m :: ms => fragments m ++ fragmentsOfAll ms

end

/-- A tree as JSX, without blanks at the end. -/
def render (m : Markup) : String :=
  String.ofList (Text.trimEnd (Source.render (fragments m)).toList)

end Jsx
end Source
end Pagewright
