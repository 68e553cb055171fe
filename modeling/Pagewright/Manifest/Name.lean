/-
# Names in a manifest

Component types and imported tags are JavaScript identifiers in ASCII, and no
reserved words. Tags that need no import are element names: letters, digits and
dashes, a letter in front and no dash at the end. The name of a project is the name
of a package. Of several faults the first in the table counts.

| identifier | element | package |
| --- | --- | --- |
| empty, or not begun by a letter, `_` or `$` | empty, or not begun by a letter | empty |
| another character | a dash at the end | more than 214 bytes |
| | another character | begun by `.` or `_` |
| | | an upper-case letter |
| | | another character |
-/

import Pagewright.Source.Jsx

namespace Pagewright
namespace Manifest

/-- The words that JavaScript reserves. -/
def reservedWords : List String := [
  "await", "break", "case", "catch", "class", "const", "continue", "debugger", "default",
  "delete", "do", "else", "enum", "export", "extends", "false", "finally", "for", "function",
  "if", "implements", "import", "in", "instanceof", "interface", "let", "new", "null",
  "package", "private", "protected", "public", "return", "static", "super", "switch", "this",
  "throw", "true", "try", "typeof", "var", "void", "while", "with", "yield"]

/-- Whether a name is a reserved word. -/
def isReserved (name : String) : Bool := reservedWords.contains name

/-- Why a name is no name of its kind. -/
inductive NameFault where
  | empty
  | start
  | characters
  | elementEmpty
  | elementStart
  | elementDash
  | elementCharacters
  | lowerCaseTag
deriving DecidableEq

/-- The message for a fault. -/
def NameFault.message : NameFault → String
  | .empty => "name cannot be empty"
  | .start => "name must start with a letter, '_' or '$'"
  | .characters => "name must contain only letters, numbers, '_' and '$'"
  | .elementEmpty => "element name cannot be empty"
  | .elementStart => "element names must start with a letter"
  | .elementDash => "element names cannot end with a dash"
  | .elementCharacters => "element names must contain only letters, numbers and dashes"
  | .lowerCaseTag => "imported component tags must start with an uppercase letter"

/-- Why a name is no identifier. -/
def identifierFault? (name : String) : Option NameFault :=
  match name.toList with
  | [] => some .empty
  | c :: rest =>
    if !Source.Jsx.isIdentifierStart c then some .start
    else if !rest.all Source.Jsx.isIdentifierPart then some .characters
    else none

/-- Whether a character may stand in the name of an element. -/
def isElementChar (c : Char) : Bool := Naming.isAsciiAlphanumeric c || c == '-'

/-- Why a name is no element name. -/
def elementFault? (name : String) : Option NameFault :=
  match name.toList with
  | [] => some .elementEmpty
  | c :: rest =>
    if !Naming.isAsciiLetter c then some .elementStart
    else if rest.getLast? = some '-' then some .elementDash
    else if !rest.all isElementChar then some .elementCharacters
    else none

/-- Whether a name begins with an upper-case letter. -/
def isCapitalized (name : String) : Bool := name.toList.head?.any Naming.isAsciiUpper

/-- Why a name is no package name. -/
inductive PackageFault where
  | empty
  | long
  | hidden
  | upperCase
  | characters
deriving DecidableEq

/-- The message for a fault. -/
def PackageFault.message : PackageFault → String
  | .empty => "name cannot be empty"
  | .long => "name cannot be longer than 214 characters"
  | .hidden => "name cannot start with '.' or '_'"
  | .upperCase => "name must be lowercase"
  | .characters => "name must contain only letters, numbers, '-', '_' and '.'"

/-- Whether a character may stand in the name of a package. -/
def isPackageChar (c : Char) : Bool :=
  Naming.isAsciiAlphanumeric c || c == '-' || c == '_' || c == '.'

/-- The most bytes that the name of a package has. -/
def maxPackageName : Nat := 214

/-- Why a name is no package name. -/
def packageFault? (name : String) : Option PackageFault :=
  match name.toList with
  | [] => some .empty
  | c :: rest =>
    if maxPackageName < Text.utf8Length (c :: rest) then some .long
    else if c = '.' || c = '_' then some .hidden
    else if (c :: rest).any Naming.isAsciiUpper then some .upperCase
    else if !(c :: rest).all isPackageChar then some .characters
    else none

end Manifest
end Pagewright
