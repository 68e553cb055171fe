/-
# Checking names in place

A scope is the text of a manifest with a path into it, such as `Card.weapp`. Names
are checked in a scope, and a name that is refused is looked up in the text: as a
part of a table header, then as a quoted value.

| looked for, in this order | the name's place in it |
| --- | --- |
| `.name]` | after the point |
| `.name.` | after the point |
| `= "name"` | after the quote |
| `= 'name'` | after the quote |
-/

import Pagewright.Manifest.Failure

namespace Pagewright
namespace Manifest

/-- The text of a manifest and a path into it. -/
structure Scope where
  text : String
  path : List String

namespace Scope

/-- The scope of a whole text. -/
def ofText (text : String) : Scope := ⟨text, []⟩

/-- The scope one segment deeper. -/
def push (s : Scope) (segment : String) : Scope := { s with path := s.path ++ [segment] }

/-- The path with points between its segments. -/
def pathText (s : Scope) : String := Text.join "." s.path

/-- What a name of a kind is called at the path. -/
def context (s : Scope) (kind : String) : String :=
  if s.path.isEmpty then kind else kind ++ " in '" ++ s.pathText ++ "'"

/-- The span of a name behind `before` and in front of `after`, at its first occurrence. -/
def spanIn? (text before name after : List Char) : Option Span :=
  (Text.before? (before ++ name ++ after) text).map fun skipped =>
    ⟨Text.utf8Length skipped + Text.utf8Length before, Text.utf8Length name⟩

/-- The span of a name in the text. -/
def span? (s : Scope) (name : String) : Option Span :=
  let find (before after : String) :=
    spanIn? s.text.toList before.toList name.toList after.toList
  (find "." "]").or <| (find "." ".").or <| (find "= \"" "\"").or (find "= '" "'")

/-- Checks a JavaScript identifier. -/
def checkName (s : Scope) (name kind : String) : Except Failure Unit :=
  if isReserved name then .error (.reserved name (s.context kind) (s.span? name))
  else
    match identifierFault? name with
    | some fault => .error (.badName name (s.context kind) fault (s.span? name))
    | none => .ok ()

/-- Checks a tag, which names a component if it is imported and an element if not. -/
def checkTag (s : Scope) (tag : String) (imported : Bool) : Except Failure Unit :=
  if imported then do
    let kind := "component tag"
    s.checkName tag kind
    if isCapitalized tag then pure ()
    else .error (.badName tag (s.context kind) .lowerCaseTag (s.span? tag))
  else
    match elementFault? tag with
    | some fault => .error (.badName tag (s.context "element") fault (s.span? tag))
    | none => .ok ()

/-- Checks the name of a project. -/
def checkProjectName (s : Scope) (name : String) : Except Failure Unit :=
  match packageFault? name with
  | some fault => .error (.projectName name fault (s.span? name))
  | none => .ok ()

end Scope
end Manifest
end Pagewright
