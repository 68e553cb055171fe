/-
# JSON text

Two layouts of one grammar. The compact layout has no spaces; the indented one
puts every item and field on a line of its own, two spaces deeper than its
bracket, with a space after the colon, and leaves empty brackets closed. In a
string the quote, the backslash and the controls below `U+0020` are escaped,
all else stands for itself.
-/

import Pagewright.Binary64.Decimal
import Pagewright.Json.Basic
import Pagewright.Text.Search

namespace Pagewright

/-- The text of a number: digits for an integer, the shortest decimal for a float. -/
def Number.toText : Number → String
  | .integer n => toString n
  | .float x => x.toText

namespace Json

/-- The digit of a number below sixteen, in lower case. -/
def hexDigit (n : Nat) : Char := if n < 10 then Char.ofNat (48 + n) else Char.ofNat (87 + n)

/-- A character inside quotes. -/
def escape (c : Char) : List Char :=
  if c = '"' then ['\\', '"']
  else if c = '\\' then ['\\', '\\']
  else if c = '\n' then ['\\', 'n']
  else if c = '\r' then ['\\', 'r']
  else if c = '\t' then ['\\', 't']
  else if c.toNat = 8 then ['\\', 'b']
  else if c.toNat = 12 then ['\\', 'f']
  else if c.toNat < 0x20 then
    ['\\', 'u', '0', '0', hexDigit (c.toNat / 16), hexDigit (c.toNat % 16)]
  else [c]

/-- A text as a JSON string. -/
def quote (s : String) : String := String.ofList ('"' :: s.toList.flatMap escape ++ ['"'])

mutual

/-- A value in the compact layout. -/
def compact : Json → String
  | .null => "null"
  | .bool b => if b then "true" else "false"
  | .number n => n.toText
  | .string s => quote s
  | .array items => "[" ++ Text.join "," (compactItems items) ++ "]"
  | .object fields => "\x7b" ++ Text.join "," (compactFields fields) ++ "\x7d"

/-- The items of an array in the compact layout. -/
def compactItems : List Json → List String
  | [] => []
  | x :: xs => compact x :: compactItems xs

/-- The fields of an object in the compact layout. -/
def compactFields : List (String × Json) → List String
  | [] => []
  | (k, v) :: rest => (quote k ++ ":" ++ compact v) :: compactFields rest

end

/-- The start of a line at a nesting depth. -/
def lineStart (depth : Nat) : String := "\n" ++ String.ofList (List.replicate (2 * depth) ' ')

/-- Puts members between brackets, each on a line of its own. -/
def bracketed (opening closing : String) (depth : Nat) (members : List String) : String :=
  if members.isEmpty then opening ++ closing
  else
    opening ++ lineStart (depth + 1) ++ Text.join ("," ++ lineStart (depth + 1)) members ++
      lineStart depth ++ closing

mutual

/-- A value in the indented layout, inside `depth` brackets. -/
def indented (depth : Nat) : Json → String
  | .array items => bracketed "[" "]" depth (indentedItems (depth + 1) items)
  | .object fields => bracketed "\x7b" "\x7d" depth (indentedFields (depth + 1) fields)
  | .null => "null"
  | .bool b => if b then "true" else "false"
  | .number n => n.toText
  | .string s => quote s

/-- The items of an array in the indented layout. -/
def indentedItems (depth : Nat) : List Json → List String
  | [] => []
  | x :: xs => indented depth x :: indentedItems depth xs

/-- The fields of an object in the indented layout. -/
def indentedFields (depth : Nat) : List (String × Json) → List String
  | [] => []
  | (k, v) :: rest => (quote k ++ ": " ++ indented depth v) :: indentedFields depth rest

end

/-- A value in the indented layout. -/
def pretty (v : Json) : String := indented 0 v

end Json
end Pagewright
