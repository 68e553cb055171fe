/-
# Fragments of source text

A fragment describes a piece of source without its indentation. A writer turns
fragments into text: it holds the unit of indentation, the level it stands at
and what is written so far.

| fragment | text at level `n` |
| --- | --- |
| `line s` | `n` units, `s`, a line feed; only the line feed when `s` is empty |
| `blank` | a line feed |
| `raw s` | `s` |
| `block h b c` | the line `h`, `b` one level deeper, the line `c` if there is one |
| `indented b` | `b` one level deeper |
| `sequence b` | `b` |
| `doc s` | `n` units, `s` as a documentation comment, a line feed |
| `comment s` | `n` units, `s` as a line comment, a line feed |
-/

namespace Pagewright
namespace Source

/-- The unit of indentation. -/
inductive Indent where
  | spaces (width : Nat)
  | tab
deriving DecidableEq

/-- The text of a unit: two spaces for every width but four. -/
def Indent.text : Indent → String
  | .spaces 4 => "    "
  | .spaces _ => "  "
  | .tab => "\t"

instance : Inhabited Indent := ⟨.spaces 2⟩

/-- A piece of source text. -/
inductive Fragment where
  | line (text : String)
  | blank
  | raw (text : String)
  | block (header : String) (body : List Fragment) (close : Option String)
  | indented (body : List Fragment)
  | sequence (body : List Fragment)
  | doc (text : String)
  | comment (text : String)
deriving Inhabited

/-- Source text in the making. -/
structure Writer where
  indent : Indent
  level : Nat
  text : String
deriving Inhabited

namespace Writer

/-- A writer that has written nothing. -/
def new (indent : Indent) : Writer := ⟨indent, 0, ""⟩

/-- The indentation of the next line. -/
def margin (w : Writer) : String := String.join (List.replicate w.level w.indent.text)

/-- Writes text as it is. -/
def raw (w : Writer) (s : String) : Writer := { w with text := w.text ++ s }

/-- Ends the line. -/
def blank (w : Writer) : Writer := w.raw "\n"

/-- Writes an indented line. -/
def indentedLine (w : Writer) (s : String) : Writer := w.raw (w.margin ++ s ++ "\n")

/-- Writes a line, indented unless it is empty. -/
def line (w : Writer) (s : String) : Writer := if s.isEmpty then w.blank else w.indentedLine s

/-- Writes a documentation comment. -/
def doc (w : Writer) (s : String) : Writer := w.indentedLine ("/** " ++ s ++ " */")

/-- Writes a line comment. -/
def comment (w : Writer) (s : String) : Writer := w.indentedLine ("// " ++ s)

/-- Goes one level deeper. -/
def deeper (w : Writer) : Writer := { w with level := w.level + 1 }

/-- Goes one level up; the outermost level has none above it. -/
def shallower (w : Writer) : Writer := { w with level := w.level - 1 }

mutual

/-- Writes a fragment. -/
def fragment (w : Writer) : Fragment → Writer
  | .line s => w.line s
  | .blank => w.blank
  | .raw s => w.raw s
  | .block header body close =>
    let w := ((w.line header).deeper.fragments body).shallower
    match close with
    | some s => w.line s
    | none => w
  | .indented body => (w.deeper.fragments body).shallower
  | .sequence body => w.fragments body
  | .doc s => w.doc s
  | .comment s => w.comment s

/-- Writes fragments one after the other. -/
def fragments (w : Writer) : List Fragment → Writer
  | [] => w
  | f :: fs => (w.fragment f).fragments fs

end

/-- Writes a header line, a body one level deeper and a closing line. -/
def block (w : Writer) (header close : String) (body : Writer → Writer) : Writer :=
  (body (w.line header).deeper).shallower.line close

end Writer

/-- The text of fragments, indented by two spaces from the margin. -/
def render (fragments : List Fragment) : String :=
  ((Writer.new default).fragments fragments).text

end Source
end Pagewright
