/-
# Strings in JSON documents

A reader takes a string, or skips it. Both find the defects of its form; only one
that takes it also looks for surrogates without partner. Every failure names the
number of bytes that had been taken from the text when it was noticed:

| defect | bytes when taken | bytes when skipped |
| --- | --- | --- |
| the text ends too early | all | all |
| an unknown escape | up to and with the character after the backslash | the same |
| four hexadecimal digits expected | up to and with the four bytes | the same |
| a control character | up to and with it | up to it |
| a surrogate without partner | up to where the partner should be | |

The first defect in the text counts.
-/

import Pagewright.Text.Search

namespace Pagewright
namespace Json

/-! ## Places in a text -/

/-- What is left of a text after a number of bytes. -/
structure Cursor where
  offset : Nat
  rest : List Char

namespace Cursor

/-- The start of a text. -/
def ofString (s : String) : Cursor := ⟨0, s.toList⟩

/-- The cursor without the blanks in front of it. -/
def skipBlank (c : Cursor) : Cursor :=
  let blank (x : Char) : Bool := x == ' ' || x == '\n' || x == '\t' || x == '\r'
  ⟨c.offset + (c.rest.takeWhile blank).length, c.rest.dropWhile blank⟩

/-- The bytes taken when the next character is found to be wrong, or missing. -/
def reject (c : Cursor) : Nat := if c.rest.isEmpty then c.offset else c.offset + 1

/-- The digits in front of a cursor, and the cursor after them. -/
def digits (c : Cursor) : List Char × Cursor :=
  let ds := c.rest.takeWhile Char.isDigit
  (ds, ⟨c.offset + ds.length, c.rest.dropWhile Char.isDigit⟩)

end Cursor

/-! ## Pieces of a string -/

/-- A piece of a string: a character as it stands, an escaped character, or a
UTF-16 code unit with the bytes up to its end. -/
inductive Piece where
  | plain (c : Char)
  | escaped (c : Char)
  | unit (n : Nat) (stop : Nat)

/-- The value of a hexadecimal digit. -/
def hexValue? (c : Char) : Option Nat :=
  if c.isDigit then some (c.toNat - 48)
  else if 'a' ≤ c ∧ c ≤ 'f' then some (c.toNat - 87)
  else if 'A' ≤ c ∧ c ≤ 'F' then some (c.toNat - 55)
  else none

/-- The value of four hexadecimal digits. -/
def hexUnit? (a b c d : Char) : Option Nat := do
  let a ← hexValue? a
  let b ← hexValue? b
  let c ← hexValue? c
  let d ← hexValue? d
  pure (a * 4096 + b * 256 + c * 16 + d)

/-- The character that a letter after a backslash stands for. -/
def unescape? : Char → Option Char
  | '"' => some '"'
  | '\\' => some '\\'
  | '/' => some '/'
  | 'b' => some (Char.ofNat 8)
  | 'f' => some (Char.ofNat 12)
  | 'n' => some '\n'
  | 'r' => some '\r'
  | 't' => some '\t'
  | _ => none

/-- How the pieces of a string end. -/
inductive Ending where
  /-- With a closing quote, after which the text goes on. -/
  | quote (after : Cursor)
  /-- With a defect of form. -/
  | defect (taken : Nat)
  /-- With a control character after `offset` bytes. -/
  | control (offset : Nat)

/-- The pieces of a string, read after its opening quote, and how they end. -/
def readPieces (offset : Nat) : List Char → List Piece × Ending
  | [] => ([], .defect offset)
  | '"' :: rest => ([], .quote ⟨offset + 1, rest⟩)
  | '\\' :: 'u' :: rest =>
    if Text.utf8Length rest < 4 then ([], .defect (offset + 2 + Text.utf8Length rest))
    else
      match rest with
      | a :: b :: c :: d :: tail =>
        match hexUnit? a b c d with
        | some n =>
          let (pieces, ending) := readPieces (offset + 6) tail
          (.unit n (offset + 6) :: pieces, ending)
        | none => ([], .defect (offset + 6))
      | _ => ([], .defect (offset + 6))
  | '\\' :: c :: rest =>
    match unescape? c with
    | some x =>
      let (pieces, ending) := readPieces (offset + 2) rest
      (.escaped x :: pieces, ending)
    | none => ([], .defect (offset + 2))
  | ['\\'] => ([], .defect (offset + 1))
  | c :: rest =>
    if c.toNat < 0x20 then ([], .control offset)
    else
      let (pieces, ending) := readPieces (offset + c.utf8Size) rest
      (.plain c :: pieces, ending)

/-- Whether a code unit opens a surrogate pair. -/
def isLeading (n : Nat) : Bool := 0xD800 ≤ n && n ≤ 0xDBFF

/-- Whether a code unit closes a surrogate pair. -/
def isTrailing (n : Nat) : Bool := 0xDC00 ≤ n && n ≤ 0xDFFF

/-- The characters of pieces, after which a defect of form may stand. -/
def assemble (defect : Option Nat) : List Piece → Except Nat (List Char)
  | [] =>
    match defect with
    | some taken => .error taken
    | none => .ok []
  | .plain c :: rest => do return c :: (← assemble defect rest)
  | .escaped c :: rest => do return c :: (← assemble defect rest)
  | .unit n stop :: rest =>
    if isTrailing n then .error stop
    else if isLeading n then
      match rest with
      | .unit m stop' :: rest' =>
        if isTrailing m then do
          return Char.ofNat (0x10000 + (n - 0xD800) * 0x400 + (m - 0xDC00)) ::
            (← assemble defect rest')
        else .error stop'
      | .escaped _ :: _ => .error (stop + 2)
      | .plain _ :: _ => .error (stop + 1)
      | [] => .error (defect.getD (stop + 1))
    else do return Char.ofNat n :: (← assemble defect rest)

/-! ## Strings -/

/-- A string as it stands in a document: its text, for a reader that takes it, and
the failure, if it is one, of a reader that skips it. -/
structure Quoted where
  text : Except Nat String
  skipped : Except Nat Unit

/-- A string of a text. -/
def Quoted.ofString (s : String) : Quoted := ⟨.ok s, .ok ()⟩

@[simp] theorem Quoted.text_ofString (s : String) : (Quoted.ofString s).text = .ok s := rfl

@[simp] theorem Quoted.skipped_ofString (s : String) : (Quoted.ofString s).skipped = .ok () := rfl

/-- A string read after its opening quote, and the cursor after its closing one. -/
def readQuoted (c : Cursor) : Quoted × Option Cursor :=
  let (pieces, ending) := readPieces c.offset c.rest
  let text (defect : Option Nat) : Except Nat String :=
    (assemble defect pieces).map String.ofList
  match ending with
  | .quote after => (⟨text none, .ok ()⟩, some after)
  | .defect taken => (⟨text (some taken), .error taken⟩, none)
  | .control offset => (⟨text (some (offset + 1)), .error offset⟩, none)

end Json
end Pagewright
