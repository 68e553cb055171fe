/-
# Names in several spellings

| function | from | to |
| --- | --- | --- |
| `pascalCase` | `hello_world`, `hello-world`, `hello world` | `HelloWorld` |
| `camelCase` | `on-click` | `onClick` |
| `kebabCase` | `backgroundColor` | `background-color` |
| `directoryName` | `Über uns!`, `3D`, `???` | `beruns`, `page-3d`, `page` |
| `componentName` | `user-list`, `2x`, the empty name | `UserList`, `Page2x`, `Page` |
-/

import Pagewright.Text.Case
import Pagewright.Text.Search

namespace Pagewright
namespace Naming

/-- Whether a character is an ASCII lower-case letter. -/
def isAsciiLower (c : Char) : Bool := 'a' ≤ c && c ≤ 'z'

/-- Whether a character is an ASCII upper-case letter. -/
def isAsciiUpper (c : Char) : Bool := 'A' ≤ c && c ≤ 'Z'

/-- Whether a character is an ASCII digit. -/
def isAsciiDigit (c : Char) : Bool := '0' ≤ c && c ≤ '9'

/-- Whether a character is an ASCII letter. -/
def isAsciiLetter (c : Char) : Bool := isAsciiLower c || isAsciiUpper c

/-- Whether a character is an ASCII letter or digit. -/
def isAsciiAlphanumeric (c : Char) : Bool := isAsciiLetter c || isAsciiDigit c

/-- Whether a character separates the words of a name. -/
def isSeparator (c : Char) : Bool := c == '_' || c == '-' || c == ' '

/-- A word with its first character in upper case. -/
def capitalize : List Char → List Char
  | [] => []
  | c :: rest => Text.upper c ++ rest

/-- A name with its first character in lower case. -/
def uncapitalize : List Char → List Char
  | [] => []
  | c :: rest => Text.lower c ++ rest

/-- The capitalized words of a name, joined. -/
def pascalChars (s : List Char) : List Char :=
  (Text.splitWhere isSeparator s).flatMap capitalize

/-- The capitalized words of a name, joined. -/
def pascalCase (s : String) : String := String.ofList (pascalChars s.toList)

/-- The words of a name joined, all but the first capitalized. -/
def camelCase (s : String) : String := String.ofList (uncapitalize (pascalChars s.toList))

/-- The kebab-case form of what follows a character: a dash goes between a
lower-case letter or digit and an upper-case letter. -/
def kebabAfter (previous : Option Char) : List Char → List Char
  | [] => []
  | c :: rest =>
    let dash := isAsciiUpper c && previous.any fun p => isAsciiLower p || isAsciiDigit p
    (if dash then ['-'] else []) ++ c.toLower :: kebabAfter (some c) rest

/-- A camelCase name with its words in lower case and dashes between them. -/
def kebabCase (s : String) : String := String.ofList (kebabAfter none s.toList)

/-- Whether a character may stand in a directory name. -/
def isDirectoryChar (c : Char) : Bool :=
  isAsciiLower c || isAsciiDigit c || c == '_' || c == '-'

/-- A page name as the name of a directory: lower case, only the characters
`a`–`z`, `0`–`9`, `_` and `-`, never empty and never a digit in front. -/
def directoryName (name : String) : String :=
  match (Text.lowercase name).toList.filter isDirectoryChar with
  | [] => "page"
  | c :: rest =>
    if isAsciiDigit c then "page-" ++ String.ofList (c :: rest) else String.ofList (c :: rest)

/-- A name as the name of a function component. -/
def componentName (name : String) : String :=
  match pascalChars name.toList with
  | [] => "Page"
  | c :: rest =>
    if isAsciiDigit c then "Page" ++ String.ofList (c :: rest) else String.ofList (c :: rest)

end Naming
end Pagewright
