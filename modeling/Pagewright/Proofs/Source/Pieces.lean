/-
# The pieces of a fragment

A fragment lays out pieces: lines behind a margin, lines without anything on them, and text as it
is. Each piece stands in bodies of blocks, in indented bodies and in sequences, one inside the
other, of which all but the sequences put it one level deeper:

| piece | from | text |
| --- | --- | --- |
| a line | a comment; a line, header or close that is not empty | margin, line, line feed |
| empty | a blank; an empty line, header or close | a line feed |
| raw | text as it is | the text |

A writer writes the pieces in order, each with one unit of indentation for each of its own levels
and for each body around the piece that is deeper, behind whatever it has written, and stays at its
level (`Writer.fragment_pieces`).
-/

import Pagewright.Proofs.Source.Fragments

namespace Pagewright
namespace Source

/-- What a piece can stand in. -/
inductive Enclosure where
  | block
  | indented
  | sequence
deriving DecidableEq

/-- Whether what stands inside is one level deeper. -/
def Enclosure.deepens : Enclosure → Bool
  | .block | .indented => true
  | .sequence => false

/-- A piece of source text. -/
inductive Piece where
  | line (text : String)
  | empty
  | raw (text : String)

namespace Piece

/-- The piece of a line, which has no margin if nothing is on it. -/
def ofLine (s : String) : Piece := if s.isEmpty then .empty else .line s

/-- The text of a piece behind a margin. -/
def text (margin : String) : Piece → String
  | .line s => margin ++ s ++ "\n"
  | .empty => "\n"
  | .raw s => s

end Piece

/-- The number of levels that a piece is deeper than the fragment it belongs to. -/
def depth (around : List Enclosure) : Nat := around.countP Enclosure.deepens

mutual

/-- The pieces of a fragment in order, each with what it stands in, from the inside. -/
def Fragment.pieces (around : List Enclosure) : Fragment → List (List Enclosure × Piece)
  | .line s => [(around, .ofLine s)]
  | .blank => [(around, .empty)]
  | .raw s => [(around, .raw s)]
  | .block header body close =>
    (around, .ofLine header) :: (piecesOfAll (.block :: around) body ++
      close.toList.map fun s => (around, .ofLine s))
  | .indented body => piecesOfAll (.indented :: around) body
  | .sequence body => piecesOfAll (.sequence :: around) body
  | .doc s => [(around, .line ("/** " ++ s ++ " */"))]
  | .comment s => [(around, .line ("// " ++ s))]

/-- The pieces of several fragments. -/
def piecesOfAll (around : List Enclosure) : List Fragment → List (List Enclosure × Piece)
  | [] => []
  | f :: fs => f.pieces around ++ piecesOfAll around fs

end

/-- The text of pieces, for a fragment at a level. -/
def textOfPieces (i : Indent) (n : Nat) (pieces : List (List Enclosure × Piece)) : String :=
  String.join (pieces.map fun e =>
    e.2.text (String.join (List.replicate (n + depth e.1) i.text)))

section Pieces

variable (i : Indent) (n : Nat) (around : List Enclosure)

/-- The first piece is indented by the blocks around it. -/
theorem textOfPieces_cons (e : List Enclosure × Piece) (pieces : List (List Enclosure × Piece)) :
    textOfPieces i n (e :: pieces) =
      e.2.text (String.join (List.replicate (n + depth e.1) i.text)) ++ textOfPieces i n pieces :=
  String.join_cons

/-- The text of pieces and more pieces is that of both. -/
theorem textOfPieces_append (pieces more : List (List Enclosure × Piece)) :
    textOfPieces i n (pieces ++ more) = textOfPieces i n pieces ++ textOfPieces i n more := by
  rw [textOfPieces, List.map_append, String.join_append]
  rfl

/-- A line is a piece of its own. -/
theorem textOfPieces_line (s : String) :
    textOfPieces i n [(around, .line s)] = lineAt i (n + depth around) s := by
  rw [textOfPieces_cons]
  exact String.append_empty

/-- A line that may be empty is a piece of its own. -/
theorem textOfPieces_ofLine (s : String) :
    textOfPieces i n [(around, .ofLine s)] = lineText i (n + depth around) s := by
  rw [Piece.ofLine, lineText]
  split
  · rfl
  · exact textOfPieces_line i n around s

theorem depth_of_deepens {e : Enclosure} (h : e.deepens) :
    depth (e :: around) = depth around + 1 := List.countP_cons_of_pos h

theorem depth_sequence : depth (.sequence :: around) = depth around :=
  List.countP_cons_of_neg Bool.false_ne_true

mutual

/-- **The text of a fragment** is that of its pieces. -/
theorem textAt_eq_textOfPieces (around : List Enclosure) : ∀ f : Fragment,
    f.textAt i (n + depth around) = textOfPieces i n (f.pieces around)
  | .line s => (textOfPieces_ofLine i n around s).symm
  | .blank => rfl
  | .raw s => by
    rw [Fragment.pieces, textOfPieces_cons]
    exact String.append_empty.symm
  | .block header body close => by
    have hheader := textOfPieces_ofLine i n around header
    have hbody := textOfAll_eq_textOfPieces (.block :: around) body
    rw [depth_of_deepens around rfl] at hbody
    rw [Fragment.pieces, ← List.singleton_append, textOfPieces_append, textOfPieces_append, hheader,
      ← hbody, ← String.append_assoc]
    cases close with
    | none => rfl
    | some s =>
      have hclose := textOfPieces_ofLine i n around s
      rw [Option.toList_some, List.map_singleton, hclose]
      rfl
  | .indented body => by
    have hbody := textOfAll_eq_textOfPieces (.indented :: around) body
    rwa [depth_of_deepens around rfl] at hbody
  | .sequence body => by
    have hbody := textOfAll_eq_textOfPieces (.sequence :: around) body
    rwa [depth_sequence] at hbody
  | .doc s => (textOfPieces_line i n around _).symm
  | .comment s => (textOfPieces_line i n around _).symm

/-- **The text of fragments** is that of their pieces, one behind the other. -/
theorem textOfAll_eq_textOfPieces (around : List Enclosure) : ∀ fs : List Fragment,
    textOfAll i (n + depth around) fs = textOfPieces i n (piecesOfAll around fs)
  | [] => rfl
  | f :: fs => by
    rw [textOfAll, piecesOfAll, textOfPieces_append, textAt_eq_textOfPieces around f,
      textOfAll_eq_textOfPieces around fs]

end

end Pieces

/-- **A fragment is written** at the level of the writer, which keeps its level and its unit of
indentation. Behind what was written stand the pieces of the fragment in order: a line behind one
unit for each level of the writer and for each block or indented body around the line, a line feed
by itself for a line without anything on it, and raw text as it is. -/
theorem Writer.fragment_pieces (w : Writer) (f : Fragment) :
    (w.fragment f).level = w.level ∧ (w.fragment f).indent = w.indent ∧
      (w.fragment f).text = w.text ++ String.join ((f.pieces []).map fun e =>
        e.2.text (String.join (List.replicate (w.level + depth e.1) w.indent.text))) := by
  have hwrites : w.fragment f = ⟨w.indent, w.level, w.text ++ f.textAt w.indent w.level⟩ :=
    writes_fragment w.level f w.text
  have htext := textAt_eq_textOfPieces w.indent w.level [] f
  rw [hwrites]
  exact ⟨rfl, rfl, congrArg (w.text ++ ·) htext⟩

/-- A writer at the first level: the sequence does not put the comment deeper, the two bodies do. -/
example :
    (Writer.fragment ⟨.tab, 1, "x"⟩ (.block "f(" [.line "", .raw "y",
      .sequence [.indented [.comment "z"]]] (some ")"))).text =
      "x\tf(\n\ny\t\t\t// z\n\t)\n" := by
  decide

end Source
end Pagewright
