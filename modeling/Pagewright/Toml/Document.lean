/-
# Reading TOML documents

A document is read as a JSON value whose objects have their keys in ascending
order. Line by line it holds headers `[a.b]` and `[[a.b]]`, pairs `a.b = value`,
comments and nothing; a line ends with a line feed, or a carriage return and one.
Arrays and inline tables may go over lines, hold comments and end with a comma; a
line may end on either side of an equals sign there, but never inside a key. At most
eighty of them nest, and a key has at most eighty parts.

The readers take the text that remains and give what they read with the text
after it. Those that call each other take fuel. Of three calls in a row at least
one takes a character away, so three times the length of the text is enough.
-/

import Pagewright.Toml.Quoted
import Pagewright.Toml.Tree

namespace Pagewright
namespace Toml

/-- How many arrays and inline tables may nest. -/
def maxDepth : Nat := 80

/-- How many parts a key may have. -/
def maxParts : Nat := 80

/-- Whether a character is a blank of a line. -/
def isLineBlank (c : Char) : Bool := c == ' ' || c == '\t'

/-- Skips the blanks of a line. -/
def skipBlanks (s : List Char) : List Char := s.dropWhile isLineBlank

/-- Skips blanks, line ends and comments; `inComment` tells where the text begins. -/
def skipLines (inComment : Bool) : List Char → Option (List Char)
  | [] => some []
  | '\n' :: s => skipLines false s
  | '\r' :: '\n' :: s => skipLines false s
  | c :: s =>
    if inComment then (if isTextChar c then skipLines true s else none)
    else if isLineBlank c then skipLines false s
    else if c = '#' then skipLines true s
    else some (c :: s)

/-- Skips what may stand beside an equals sign. -/
def skipGap (inTable : Bool) (s : List Char) : Option (List Char) :=
  if inTable then skipLines false s else some (skipBlanks s)

/-- Skips what may follow on a line, with its end. -/
def endLine? (s : List Char) : Option (List Char) :=
  let rest :=
    match skipBlanks s with
    | '#' :: s => s.dropWhile isTextChar
    | s => s
  match rest with
  | [] => some []
  | '\n' :: s => some s
  | '\r' :: '\n' :: s => some s
  | _ => none

/-- Whether a character may stand in a key without quotes. -/
def isKeyChar (c : Char) : Bool :=
  c.isDigit || ('a' ≤ c && c ≤ 'z') || ('A' ≤ c && c ≤ 'Z') || c == '_' || c == '-'

/-- A part of a key. -/
def keyPart? : List Char → Option (String × List Char)
  | '"' :: s => (basic? s).map fun (text, rest) => (String.ofList text, rest)
  | '\'' :: s => (literal? s).map fun (text, rest) => (String.ofList text, rest)
  | s =>
    match s.takeWhile isKeyChar with
    | [] => none
    | c :: cs => some (String.ofList (c :: cs), s.dropWhile isKeyChar)

/-- A key of at most as many parts, separated by points, with the blanks after it. -/
def keyParts? : Nat → List Char → Option (List String × List Char)
  | 0, _ => none
  | room + 1, s => do
    let (part, s) ← keyPart? s
    match skipBlanks s with
    | '.' :: s =>
      let (parts, s) ← keyParts? room (skipBlanks s)
      some (part :: parts, s)
    | s => some ([part], s)

/-- A key, with the blanks after it. -/
def key? (s : List Char) : Option (List String × List Char) := keyParts? maxParts s

/-- Whether a character may stand in a bare scalar. -/
def isScalarChar (c : Char) : Bool := isKeyChar c || c == '+' || c == '.' || c == ':'

/-- A bare scalar. A date may have a space and a time behind it. -/
def bare? (s : List Char) : Option (Json × List Char) :=
  let first := s.takeWhile isScalarChar
  let rest := s.dropWhile isScalarChar
  match rest with
  | ' ' :: c :: more =>
    if c.isDigit then
      (scalar? (first ++ ' ' :: (c :: more).takeWhile isScalarChar)).map fun v =>
        (v, (c :: more).dropWhile isScalarChar)
    else (scalar? first).map fun v => (v, rest)
  | _ => (scalar? first).map fun v => (v, rest)

/-- A quoted string of any form, as a value. -/
def string? : List Char → Option (Json × List Char)
  | '"' :: '"' :: '"' :: s => text (basicLines? s)
  | '\'' :: '\'' :: '\'' :: s => text (literalLines? s)
  | '"' :: s => text (basic? s)
  | '\'' :: s => text (literal? s)
  | _ => none
where
  text (read : Option (List Char × List Char)) : Option (Json × List Char) :=
    read.map fun (t, rest) => (.string (String.ofList t), rest)

mutual

/-- A value, below which `room` arrays and inline tables may nest. -/
def value? : Nat → Nat → List Char → Option (Json × List Char)
  | 0, _, _ => none
  | fuel + 1, room, s =>
    match s with
    | '[' :: s =>
      if room = 0 then none
      else do
        let (items, s) ← items? fuel (room - 1) s
        some (.array items, s)
    | '\x7b' :: s =>
      if room = 0 then none
      else do
        let (pairs, s) ← pairs? fuel (room - 1) s
        let v ← build? pairs []
        some (v, s)
    | c :: s => if c == '"' || c == '\'' then string? (c :: s) else bare? (c :: s)
    | [] => none

/-- The items of an array, with its end. -/
def items? : Nat → Nat → List Char → Option (List Json × List Char)
  | 0, _, _ => none
  | fuel + 1, room, s => do
    match ← skipLines false s with
    | ']' :: s => some ([], s)
    | s =>
      let (v, s) ← value? fuel room s
      match ← skipLines false s with
      | ']' :: s => some ([v], s)
      | ',' :: s =>
        let (vs, s) ← items? fuel room s
        some (v :: vs, s)
      | _ => none

/-- The pairs of an inline table, with its end. -/
def pairs? : Nat → Nat → List Char → Option (List Pair × List Char)
  | 0, _, _ => none
  | fuel + 1, room, s => do
    match ← skipLines false s with
    | '\x7d' :: s => some ([], s)
    | s =>
      let (pair, s) ← pair? true fuel room s
      match ← skipLines false s with
      | '\x7d' :: s => some ([pair], s)
      | ',' :: s =>
        let (pairs, s) ← pairs? fuel room s
        some (pair :: pairs, s)
      | _ => none

/-- A pair, of an inline table or of a line. -/
def pair? (inTable : Bool) : Nat → Nat → List Char → Option (Pair × List Char)
  | 0, _, _ => none
  | fuel + 1, room, s => do
    let (path, s) ← key? s
    match ← skipGap inTable s with
    | '=' :: s =>
      let (v, s) ← value? fuel room (← skipGap inTable s)
      some (⟨path, v⟩, s)
    | _ => none

end

/-- A header, after its first bracket: whether it is of an item, and its path. -/
def header? (s : List Char) : Option ((Bool × List String) × List Char) :=
  match s with
  | '[' :: s => do
    let (path, s) ← key? (skipBlanks s)
    match s with
    | ']' :: ']' :: s => some ((true, path), s)
    | _ => none
  | s => do
    let (path, s) ← key? (skipBlanks s)
    match s with
    | ']' :: s => some ((false, path), s)
    | _ => none

/-- The pairs up to the first header, and the sections. -/
def lines? : Nat → List Char → Option (List Pair × List Section)
  | 0, _ => none
  | fuel + 1, s => do
    match ← skipLines false s with
    | [] => some ([], [])
    | '[' :: s =>
      let ((isItem, path), s) ← header? s
      let s ← endLine? s
      let (pairs, sections) ← lines? fuel s
      some ([], ⟨isItem, path, pairs⟩ :: sections)
    | s =>
      let (pair, s) ← pair? false fuel maxDepth s
      let s ← endLine? s
      let (pairs, sections) ← lines? fuel s
      some (pair :: pairs, sections)

/-- A text without a byte order mark in front. -/
def dropMark : List Char → List Char
  | c :: s => if c = '\ufeff' then s else c :: s
  | [] => []

/-- The value of a document. -/
def parse? (text : String) : Option Json := do
  let s := dropMark text.toList
  let (pairs, sections) ← lines? (3 * (s.length + 1)) s
  build? pairs sections

end Toml
end Pagewright
