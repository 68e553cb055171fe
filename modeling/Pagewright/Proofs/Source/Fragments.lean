/-
# The text of fragments

What a writer writes for a fragment depends on the fragment, the unit of indentation and the
level it stands at, and on nothing that was written before (`Fragment.textAt`). So fragments
are written one after the other, a body one level deeper than what is around it, and the
writer stays at its level (`writes_fragment`).

The text of a source file therefore begins with its import statements, each on a line of its
own (`File.render_eq`). What a page file has behind them is a blank line, unless there are none,
and its component (`pageFile_render_eq`).
-/

import Pagewright.Proofs.Source.Writing
import Pagewright.Source.File

namespace Pagewright
namespace Source

/-- A line at a level, which has no indentation if it is empty. -/
def lineText (i : Indent) (n : Nat) (s : String) : String :=
  if s.isEmpty then "\n" else lineAt i n s

mutual

/-- The text of a fragment at a level. -/
def Fragment.textAt (i : Indent) (n : Nat) : Fragment → String
  | .line s => lineText i n s
  | .blank => "\n"
  | .raw s => s
  | .block header body close =>
    lineText i n header ++ textOfAll i (n + 1) body ++
      match close with
      | some s => lineText i n s
      | none => ""
  | .indented body => textOfAll i (n + 1) body
  | .sequence body => textOfAll i n body
  | .doc s => lineAt i n ("/** " ++ s ++ " */")
  | .comment s => lineAt i n ("// " ++ s)

/-- The text of fragments one after the other. -/
def textOfAll (i : Indent) (n : Nat) : List Fragment → String
  | [] => ""
  | f :: fs => f.textAt i n ++ textOfAll i n fs

end

section Writing

variable {i : Indent} {n : Nat}

theorem writes_raw (s : String) : Writes i n (·.raw s) s := fun _ => rfl

theorem writes_indentedLine (s : String) : Writes i n (·.indentedLine s) (lineAt i n s) :=
  fun _ => rfl

/-- A line is written with its indentation, unless it is empty. -/
theorem writes_lineText (s : String) : Writes i n (·.line s) (lineText i n s) := by
  by_cases h : s = ""
  · subst h
    exact writes_raw "\n"
  · refine (writes_line h).of_eq ?_
    rw [lineText, if_neg (by simpa using h)]

/-- **A deeper body** writes at its level, and the writer comes back to the level around it. -/
theorem Writes.deeper {step : Writer → Writer} {s : String} (h : Writes i (n + 1) step s) :
    Writes i n (fun w => (step w.deeper).shallower) s := by
  intro text
  dsimp only
  rw [Writer.deeper, h, Writer.shallower, Nat.add_sub_cancel]

mutual

/-- **A fragment** is written as its text at the level. -/
theorem writes_fragment (n : Nat) : ∀ f : Fragment, Writes i n (·.fragment f) (f.textAt i n)
  | .line s => writes_lineText s
  | .blank => writes_raw "\n"
  | .raw s => writes_raw s
  | .block header body close => by
    have hbody := (writes_lineText (i := i) (n := n) header).andThen
      (writes_fragments (n + 1) body).deeper
    cases close with
    | none => exact hbody.of_eq (String.append_empty).symm
    | some s => exact hbody.andThen (writes_lineText s)
  | .indented body => (writes_fragments (n + 1) body).deeper
  | .sequence body => writes_fragments n body
  | .doc s => writes_indentedLine _
  | .comment s => writes_indentedLine _

/-- **Fragments** are written one after the other. -/
theorem writes_fragments (n : Nat) : ∀ fs : List Fragment,
    Writes i n (·.fragments fs) (textOfAll i n fs)
  | [] => fun _ => by simp [Writer.fragments, textOfAll]
  | f :: fs => (writes_fragment n f).andThen (writes_fragments n fs)

end

/-- The text of fragments and more fragments is that of both. -/
theorem textOfAll_append (fs gs : List Fragment) :
    textOfAll i n (fs ++ gs) = textOfAll i n fs ++ textOfAll i n gs := by
  induction fs with
  | nil => exact String.empty_append.symm
  | cons f fs ih => rw [List.cons_append, textOfAll, textOfAll, ih, String.append_assoc]

end Writing

/-! ## Source files -/

/-- No import statement is empty. -/
theorem Import.statement_ne_empty (s : Import) : s.statement ≠ "" := fun h =>
  absurd (String.append_eq_empty_iff.1 h).2 (by decide)

/-- Import statements, each on a line of its own. -/
def importLines (imports : List Import) : String :=
  String.join (imports.map fun s => s.statement ++ "\n")

/-- Import statements are written one to a line. -/
theorem textOfAll_imports (imports : List Import) :
    textOfAll default 0 (imports.map Import.fragment) = importLines imports := by
  induction imports with
  | nil => rfl
  | cons s imports ih =>
    have hline : s.fragment.textAt default 0 = s.statement ++ "\n" := by
      rw [Import.fragment, Fragment.textAt, lineText,
        if_neg (by simpa using s.statement_ne_empty)]
      simp [lineAt]
    rw [List.map_cons, textOfAll, ih, hline, importLines, importLines, List.map_cons,
      String.join_cons]

/-- **A source file** begins with its import statements. -/
theorem File.render_eq (f : File) :
    f.render = importLines f.imports ++
      (if f.imports.isEmpty || f.parts.isEmpty then "" else "\n") ++
      textOfAll default 0 (File.separated f.parts) := by
  have htext := congrArg Writer.text (writes_fragments (i := default) 0 f.fragments "")
  have hrender : f.render = textOfAll default 0 f.fragments := htext.trans String.empty_append
  rw [hrender, fragments, textOfAll_append, textOfAll_append, textOfAll_imports]
  split
  · rfl
  · rfl

/-- **A page file** has a blank line behind its import statements, unless there are none, and then
its component. -/
theorem pageFile_render_eq (name : String) (imports : Imports) (root : Markup) :
    (pageFile name imports root).render = importLines (Import.ofImports imports) ++
      (if (Import.ofImports imports).isEmpty then "" else "\n") ++
      textOfAll default 0 (functionComponent (Naming.componentName name) root) := by
  rw [File.render_eq, pageFile, List.isEmpty_cons, Bool.or_false]
  rfl

end Source
end Pagewright
