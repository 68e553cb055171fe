/-
# Reading JSON documents

A text is read as one `Node` with blanks around it. Every text has a root node; its
defects stand in the node as broken parts, and the first of them is the last part of
every array and object that is open there. The bytes taken when a defect is noticed
are those up to and with an unexpected character, or all if the text ends too early.
Defects of strings are told in `Json.Quoted`.

What follows the root node is a defect of the document that comes after all of the
node (`Document.value`).
-/

import Pagewright.Json.Node

namespace Pagewright
namespace Json

/-! ## Numerals -/

/-- The exponent of a numeral, if one follows, and the bytes up to its digits. -/
def readExponent (c : Cursor) : Except Nat (Option (Bool × List Char) × Nat × Cursor) :=
  match c.rest with
  | x :: rest =>
    if x = 'e' ∨ x = 'E' then
      let (negative, c) : Bool × Cursor :=
        match rest with
        | '+' :: tail => (false, ⟨c.offset + 2, tail⟩)
        | '-' :: tail => (true, ⟨c.offset + 2, tail⟩)
        | _ => (false, ⟨c.offset + 1, rest⟩)
      match c.digits with
      | ([], _) => .error c.reject
      | (ds, after) => .ok (some (negative, ds), c.offset, after)
    else .ok (none, c.offset, c)
  | [] => .ok (none, c.offset, c)

/-- The fraction of a numeral, if one follows. -/
def readFraction (c : Cursor) : Except Nat (Option (List Char) × Cursor) :=
  match c.rest with
  | '.' :: rest =>
    match (⟨c.offset + 1, rest⟩ : Cursor).digits with
    | ([], after) => .error after.reject
    | (ds, after) => .ok (some ds, after)
  | _ => .ok (none, c)

/-- A numeral read after its sign. Its form fails the reading; its value may be out
of range. -/
def readNumeral (negative : Bool) (c : Cursor) : Except Nat (Except Nat Number × Cursor) := do
  let (whole, after) ←
    match c.digits with
    | ([], _) => .error c.reject
    | ('0' :: _ :: _, _) => .error (c.offset + 2)
    | (ds, after) => .ok (ds, after)
  let (fraction, after) ← readFraction after
  let (exponent, exponentStart, after) ← readExponent after
  let numeral : Numeral := ⟨negative, whole, fraction, exponent⟩
  let number : Except Nat Number :=
    match numeral.value? with
    | some n => .ok n
    | none =>
      match exponent with
      | some (sign, ds) =>
        if (Numeral.exponentValue? sign ds).isNone then
          .error (exponentStart + Numeral.exponentReach ds)
        else .error after.offset
      | none => .error after.offset
  pure (number, after)

/-! ## Values -/

/-- The rest of a word whose first letter is taken. -/
def readWord (word : List Char) (c : Cursor) : Except Nat Cursor :=
  match word, c.rest with
  | [], _ => .ok c
  | w :: ws, x :: rest =>
    if x = w then readWord ws ⟨c.offset + 1, rest⟩ else .error (c.offset + 1)
  | _ :: _, [] => .error c.offset

/-- A part of a document, and the cursor after it unless the part breaks. -/
abbrev Parsed (α : Type) := α × Option Cursor

namespace Parsed

/-- A part that is read whole or not at all, as a node that starts at `start`. -/
def leaf (start : Nat) (node : Extent → α → Node) : Except Nat (α × Cursor) → Parsed Node
  | .ok (x, after) => (node ⟨start, after.offset⟩ x, some after)
  | .error taken => (.broken start taken, none)

/-- The parts that start with one, after which `more` reads the others. -/
def andThen (more : Cursor → Parsed (List α)) : Parsed α → Parsed (List α)
  | (x, none) => ([x], none)
  | (x, some after) =>
    let (xs, after) := more after
    (x :: xs, after)

end Parsed

/-- The node for what should be a value at a cursor. -/
def Cursor.broken (c : Cursor) : Node := .broken c.offset c.reject

/-- The key for what should be a key at a cursor. -/
def Cursor.brokenKey (c : Cursor) : Key := ⟨⟨.error c.reject, .error c.reject⟩, 0⟩

/-- Where the next part of an array or object starts: at the cursor if it is the
`first`, else after a comma. -/
def Cursor.next? (first : Bool) (c : Cursor) : Option Cursor :=
  match first, c.rest with
  | true, _ => some c
  | false, ',' :: rest => some (⟨c.offset + 1, rest⟩ : Cursor).skipBlank
  | false, _ => none

/-- A word, after its first letter, as a node that starts at `start`. -/
def readLiteral (start : Nat) (letters rest : List Char) (node : Extent → Node) : Parsed Node :=
  Parsed.leaf start (fun place _ => node place)
    ((readWord letters ⟨start + 1, rest⟩).map fun after => ((), after))

/-- A key, and the cursor of what follows it after blanks. -/
def readKey (c : Cursor) : Parsed Key :=
  match c.rest with
  | '"' :: rest =>
    match readQuoted ⟨c.offset + 1, rest⟩ with
    | (text, none) => (⟨text, 0⟩, none)
    | (text, some after) =>
      let after := after.skipBlank
      match after.rest with
      | '\x7d' :: _ => (⟨text, after.offset + 1⟩, some after)
      | _ => (⟨text, after.offset⟩, some after)
  | _ => (c.brokenKey, none)

/-- A field of an object, whose value is read by `value`. -/
def readField (value : Cursor → Parsed Node) (c : Cursor) : Parsed (Key × Node) :=
  match readKey c with
  | (key, none) => ((key, c.broken), none)
  | (key, some after) =>
    match after.rest with
    | ':' :: rest =>
      let (node, next) := value ⟨after.offset + 1, rest⟩
      ((key, node), next)
    | _ => ((key, after.broken), none)

mutual

/-- A value after blanks. The fuel bounds the number of steps. -/
def readNode : Nat → Cursor → Parsed Node
  | 0, c => (c.broken, none)
  | fuel + 1, c =>
    let c := c.skipBlank
    match c.rest with
    | 'n' :: rest => readLiteral c.offset ['u', 'l', 'l'] rest .null
    | 't' :: rest => readLiteral c.offset ['r', 'u', 'e'] rest (.bool · true)
    | 'f' :: rest => readLiteral c.offset ['a', 'l', 's', 'e'] rest (.bool · false)
    | '"' :: rest =>
      let (text, after) := readQuoted ⟨c.offset + 1, rest⟩
      (.string ⟨c.offset, after.elim c.offset Cursor.offset⟩ text, after)
    | '[' :: rest =>
      let (items, after) := readItems fuel true ⟨c.offset + 1, rest⟩
      (.array c.offset items, after)
    | '\x7b' :: rest =>
      let (fields, after) := readFields fuel true ⟨c.offset + 1, rest⟩
      (.object c.offset fields, after)
    | '-' :: rest => Parsed.leaf c.offset .number (readNumeral true ⟨c.offset + 1, rest⟩)
    | d :: _ =>
      if d.isDigit then Parsed.leaf c.offset .number (readNumeral false c) else (c.broken, none)
    | [] => (c.broken, none)

/-- The items of an array up to its closing bracket; `first` before any item. -/
def readItems : Nat → Bool → Cursor → Parsed (List Node)
  | 0, _, c => ([c.broken], none)
  | fuel + 1, first, c =>
    let c := c.skipBlank
    match c.rest with
    | ']' :: rest => ([], some ⟨c.offset + 1, rest⟩)
    | _ =>
      match c.next? first with
      | some item => (readNode fuel item).andThen fun after => readItems fuel false after
      | none => ([c.broken], none)

/-- The fields of an object up to its closing bracket; `first` before any field. -/
def readFields : Nat → Bool → Cursor → Parsed (List (Key × Node))
  | 0, _, c => ([(c.brokenKey, c.broken)], none)
  | fuel + 1, first, c =>
    let c := c.skipBlank
    match c.rest with
    | '\x7d' :: rest => ([], some ⟨c.offset + 1, rest⟩)
    | _ =>
      match c.next? first with
      | some field =>
        (readField (fun value => readNode fuel value) field).andThen fun after =>
          readFields fuel false after
      | none => ([(c.brokenKey, c.broken)], none)

end

/-! ## Documents -/

/-- A text as a document: its root, and whether the text ends there. -/
structure Document where
  root : Node
  ended : Except Nat Unit

namespace Document

/-- The document of a text. -/
def ofString (s : String) : Document :=
  let start := Cursor.ofString s
  match readNode (2 * start.rest.length + 2) start with
  | (root, none) => ⟨root, .ok ()⟩
  | (root, some after) =>
    let after := after.skipBlank
    ⟨root, if after.rest.isEmpty then .ok () else .error after.reject⟩

/-- What `read` makes of a document, nothing but blanks around it. -/
def value (read : Node → Except Nat α) (d : Document) : Except Nat α := do
  let x ← read d.root
  d.ended
  pure x

end Document

/-- The value of a text, or the number of bytes taken when it is refused. -/
def parse (s : String) : Except Nat Json := (Document.ofString s).value (Node.toJson maxDepth)

end Json
end Pagewright
