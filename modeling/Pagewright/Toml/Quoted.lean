/-
# Quoted strings in TOML

| quotes | over lines | escapes |
| --- | --- | --- |
| `"…"` | no | yes |
| `'…'` | no | no |
| `"""…"""` | yes | yes, and a backslash at the end of a line joins it with what follows |
| `'''…'''` | yes | no |

A string over lines does not hold the line break right after its opening quotes,
and may hold up to two quotes right before its closing ones. Control characters
but the tab stand only as escapes. The escapes are `\b`, `\t`, `\n`, `\f`, `\r`,
`\e`, `\"`, `\\`, and `\xHH`, `\uHHHH`, `\UHHHHHHHH` for a code point; no line is
joined inside of one.
-/

import Pagewright.Toml.Scalar

namespace Pagewright
namespace Toml

/-- Whether a character may stand in a string or comment. -/
def isTextChar (c : Char) : Bool := c == '\t' || (' ' ≤ c && c != '\x7f')

/-- Whether a text over lines holds only characters that may stand in it. -/
def isLines : List Char → Bool
  | [] => true
  | '\r' :: '\n' :: s => isLines s
  | c :: s => (c == '\n' || isTextChar c) && isLines s

/-- The character of a code point in hexadecimal digits. -/
def codePoint? (ds : List Char) : Option Char := do
  let values ← ds.mapM (digitValue? 16)
  let n := values.foldl (fun n d => 16 * n + d) 0
  if n.isValidChar then some (Char.ofNat n) else none

/-- The character of an escape by one letter. -/
def escaped? : Char → Option Char
  | 'b' => some '\x08'
  | 't' => some '\t'
  | 'n' => some '\n'
  | 'f' => some '\x0c'
  | 'r' => some '\r'
  | 'e' => some '\x1b'
  | '"' => some '"'
  | '\\' => some '\\'
  | _ => none

/-- The number of digits of an escape by code point. -/
def escapeWidth? : Char → Option Nat
  | 'x' => some 2
  | 'u' => some 4
  | 'U' => some 8
  | _ => none

/-- The character of an escape and the length of the escape, from the text after its
backslash. -/
def escape? : List Char → Option (Char × Nat)
  | [] => none
  | c :: s =>
    match escapeWidth? c with
    | some width =>
      if s.length < width then none
      else (codePoint? (s.take width)).map fun x => (x, width + 1)
    | none => (escaped? c).map fun x => (x, 1)

/-- How the characters that come next are read. -/
inductive Reading where
  /-- The first `left` of them belong to an escape that is resolved. -/
  | taken (left : Nat)
  /-- They end a line that a backslash joins with what follows. -/
  | line
  /-- They come after the end of that line. -/
  | blanks

/-- Whether a character is a blank of a text over lines. A carriage return stands
only in a line end there. -/
def isJoinBlank (c : Char) : Bool := c == ' ' || c == '\t' || c == '\r'

/-- A text with its escapes resolved. With `joins`, a backslash at the end of a line
takes away the blanks and line ends that follow it. -/
def unescapeFrom (joins : Bool) : Reading → List Char → Option (List Char)
  | .line, [] => none
  | _, [] => some []
  | .taken (left + 1), _ :: s => unescapeFrom joins (.taken left) s
  | .line, c :: s =>
    if c = '\n' then unescapeFrom joins .blanks s
    else if isJoinBlank c then unescapeFrom joins .line s
    else none
  | reading, c :: s =>
    if reading matches .blanks && (c == '\n' || isJoinBlank c) then unescapeFrom joins .blanks s
    else if c != '\\' then (unescapeFrom joins (.taken 0) s).map (c :: ·)
    else if joins && (s.head?.any fun d => d == '\n' || isJoinBlank d) then
      unescapeFrom joins .line s
    else do
      let (x, length) ← escape? s
      (unescapeFrom joins (.taken length) s).map (x :: ·)

/-- A text of one line with its escapes resolved. -/
def unescape? (s : List Char) : Option (List Char) := unescapeFrom false (.taken 0) s

/-- A text over lines with its escapes resolved and its lines joined. -/
def unescapeLines? (s : List Char) : Option (List Char) := unescapeFrom true (.taken 0) s

/-- What stands before a closing quote that no backslash escapes, and after it. -/
def untilQuote : List Char → Option (List Char × List Char)
  | [] => none
  | '"' :: s => some ([], s)
  | '\\' :: c :: s => (untilQuote s).map fun (a, b) => ('\\' :: c :: a, b)
  | c :: s => (untilQuote s).map fun (a, b) => (c :: a, b)

/-- Up to two quotes in front of a text, and what follows. -/
def spareQuotes (q : Char) : List Char → List Char × List Char
  | a :: b :: s =>
    if a = q then (if b = q then ([a, b], s) else ([a], b :: s)) else ([], a :: b :: s)
  | [a] => if a = q then ([a], []) else ([], [a])
  | [] => ([], [])

/-- What stands before three closing quotes, and after them. With `escapes`, a
character after a backslash closes nothing. -/
def untilQuotes (q : Char) (escapes : Bool) : List Char → Option (List Char × List Char)
  | [] => none
  | c :: s =>
    if c = q && s.take 2 == [q, q] then some (spareQuotes q (s.drop 2))
    else if escapes && c = '\\' then
      match s with
      | d :: s => (untilQuotes q escapes s).map fun (a, b) => (c :: d :: a, b)
      | [] => none
    else (untilQuotes q escapes s).map fun (a, b) => (c :: a, b)

/-- A text without a line break in front. -/
def dropBreak : List Char → List Char
  | '\n' :: s => s
  | '\r' :: '\n' :: s => s
  | s => s

/-- A string of one line, after its opening quote. -/
def basic? (s : List Char) : Option (List Char × List Char) := do
  let (body, rest) ← untilQuote s
  if body.all isTextChar then (unescape? body).map fun text => (text, rest) else none

/-- A string of one line without escapes, after its opening quote. -/
def literal? (s : List Char) : Option (List Char × List Char) :=
  let body := s.takeWhile (· != '\'')
  match s.dropWhile (· != '\'') with
  | _ :: rest => if body.all isTextChar then some (body, rest) else none
  | [] => none

/-- A string over lines, after its opening quotes. -/
def basicLines? (s : List Char) : Option (List Char × List Char) := do
  let (body, rest) ← untilQuotes '"' true (dropBreak s)
  if isLines body then (unescapeLines? body).map fun text => (text, rest) else none

/-- A string over lines without escapes, after its opening quotes. -/
def literalLines? (s : List Char) : Option (List Char × List Char) := do
  let (body, rest) ← untilQuotes '\'' false (dropBreak s)
  if isLines body then some (body, rest) else none

end Toml
end Pagewright
