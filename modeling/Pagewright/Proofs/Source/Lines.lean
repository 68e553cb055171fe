/-
# Fragments that write lines

Fragments made of lines and blocks write the same lines at every level, and the level shows in
front of each line only (`Lined`). A block adds its header and its close, and one unit in front of
the lines of its body (`Lined.block`). The lines are found again in what the fragments write at the
margin, without the blanks at its end (`Lined.linesOf_trimEnd`).
-/

import Pagewright.Proofs.Source.Fragments
import Pagewright.Proofs.Text.Lines

namespace Pagewright
namespace Source

open Text (IsLine)

/-- Fragments that write `lines`, each one at the level at which the fragments stand. -/
structure Lined (i : Indent) (fs : List Fragment) (lines : List String) : Prop where
  isLine : ∀ s ∈ lines, IsLine s.toList
  textOfAll_eq : ∀ n, textOfAll i n fs = String.join (lines.map (lineAt i n))

variable {i : Indent}

/-- An indentation holds no line feed. -/
theorem newline_not_mem_unit (i : Indent) : '\n' ∉ i.text.toList := by
  unfold Indent.text
  split
  · decide
  · decide
  · decide

/-- A line that is not empty is written with its indentation. -/
theorem lineText_of_ne {s : String} (h : s ≠ "") (n : Nat) : lineText i n s = lineAt i n s := by
  rw [lineText, if_neg (by simpa using h)]

/-- A line that is no blank one is written with its indentation. -/
theorem lineText_of_isLine {s : String} (h : IsLine s.toList) (n : Nat) :
    lineText i n s = lineAt i n s :=
  lineText_of_ne (fun hs => h.ne_nil (String.toList_eq_nil_iff.2 hs)) n

/-- **One level deeper** a line has one unit more in front of it. -/
theorem lineAt_succ (i : Indent) (n : Nat) (s : String) :
    lineAt i (n + 1) s = lineAt i n (i.text ++ s) := by
  have hmargin : String.join (List.replicate (n + 1) i.text) =
      String.join (List.replicate n i.text) ++ i.text := by
    rw [List.replicate_succ', String.join_append]
    simp
  have hunit (margin : String) : margin ++ i.text ++ s = margin ++ (i.text ++ s) :=
    String.append_assoc
  rw [lineAt, lineAt, hmargin, hunit]

namespace Lined

variable {fs gs : List Fragment} {ls ms : List String} {s header close : String}

theorem nil : Lined i [] [] := ⟨by simp, fun _ => rfl⟩

/-- A line is written as itself. -/
theorem line (h : IsLine s.toList) : Lined i [.line s] [s] where
  isLine t ht := List.mem_singleton.1 ht ▸ h
  textOfAll_eq n := by
    have htext : Fragment.textAt i n (.line s) = lineAt i n s := lineText_of_isLine h n
    rw [textOfAll, htext]
    simp [textOfAll]

/-- Fragments and more fragments write the lines of both. -/
theorem append (hf : Lined i fs ls) (hg : Lined i gs ms) : Lined i (fs ++ gs) (ls ++ ms) where
  isLine := List.forall_mem_append.2 ⟨hf.isLine, hg.isLine⟩
  textOfAll_eq n := by
    rw [textOfAll_append, hf.textOfAll_eq, hg.textOfAll_eq, List.map_append, String.join_append]

/-- **A block** has the lines of its body one unit deeper between its header and its close. -/
theorem block (hheader : IsLine header.toList) (hclose : IsLine close.toList)
    (hbody : Lined i fs ls) :
    Lined i [.block header fs (some close)] (header :: ls.map (i.text ++ ·) ++ [close]) where
  isLine := by
    rw [List.forall_mem_append, List.forall_mem_cons, List.forall_mem_singleton]
    refine ⟨⟨hheader, fun t ht => ?_⟩, hclose⟩
    obtain ⟨s, hs, rfl⟩ := List.mem_map.1 ht
    rw [String.toList_append]
    exact (hbody.isLine s hs).append (newline_not_mem_unit i)
  textOfAll_eq n := by
    have hdeeper : ls.map (lineAt i (n + 1)) = (ls.map (i.text ++ ·)).map (lineAt i n) := by
      rw [List.map_map]
      exact List.map_congr_left fun s _ => lineAt_succ i n s
    have htext : Fragment.textAt i n (.block header fs (some close)) =
        lineAt i n header ++ String.join ((ls.map (i.text ++ ·)).map (lineAt i n)) ++
          lineAt i n close := by
      rw [Fragment.textAt, lineText_of_isLine hheader, lineText_of_isLine hclose,
        hbody.textOfAll_eq, hdeeper]
    rw [textOfAll, htext, List.map_append, List.map_cons, String.join_append, String.join_cons]
    simp [textOfAll]

/-- **The lines are found again** in what is written at the margin. -/
theorem linesOf_trimEnd (h : Lined i fs ls) :
    Text.linesOf (Text.trimEnd (textOfAll i 0 fs).toList) = ls.map String.toList := by
  have hended : (textOfAll i 0 fs).toList = Text.ended (ls.map String.toList) := by
    rw [h.textOfAll_eq, String.toList_join, Text.ended, List.flatMap_map, List.flatMap_map]
    simp [lineAt]
  rw [hended]
  refine Text.linesOf_trimEnd fun l hl => ?_
  obtain ⟨s, hs, rfl⟩ := List.mem_map.1 hl
  exact h.isLine s hs

end Lined
end Source
end Pagewright
