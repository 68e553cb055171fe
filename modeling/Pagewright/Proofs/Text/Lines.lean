/-
# The lines of a text

A text can be put together of lines, with a line feed behind each. If the last characters of
the lines are no blanks and no line holds a line feed, it is cut into these lines again once
the blanks at its end are taken away (`linesOf_trimEnd`): the line feed at the end goes, and no
line gives a carriage return to the line feed behind it.
-/

import Pagewright.Text.Blank
import Pagewright.Text.Search

namespace Pagewright
namespace Text

/-- A text without a line feed. -/
def OneLine (s : String) : Prop := '\n' ∉ s.toList

instance (s : String) : Decidable (OneLine s) := inferInstanceAs (Decidable ('\n' ∉ s.toList))

section OneLine

variable {a b sep : String}

/-- Two texts are one line together exactly if each of them is. -/
@[simp] theorem oneLine_append_iff : OneLine (a ++ b) ↔ OneLine a ∧ OneLine b := by
  simp [OneLine, not_or]

@[simp] theorem oneLine_ofList_iff {l : List Char} : OneLine (String.ofList l) ↔ '\n' ∉ l := by
  simp [OneLine]

/-- Texts of one line are one line when they are joined by such a text. -/
theorem oneLine_join {l : List String} (hsep : OneLine sep) (h : ∀ s ∈ l, OneLine s) :
    OneLine (join sep l) := by
  intro hmem
  rcases mem_toList_join hmem with hmem | ⟨s, hs, hmem⟩
  · exact hsep hmem
  · exact h s hs hmem

end OneLine

/-- A text that ends with a character that is no blank, and holds no line feed. -/
structure IsLine (l : List Char) : Prop where
  newline : '\n' ∉ l
  last : ∃ c, l.getLast? = some c ∧ isBlank c = false

/-- Lines with a line feed behind each. -/
def ended (lines : List (List Char)) : List Char := lines.flatMap (· ++ ['\n'])

variable {l : List Char} {lines : List (List Char)}

/-- A line is not empty. -/
theorem IsLine.ne_nil (h : IsLine l) : l ≠ [] := by
  obtain ⟨c, hc, -⟩ := h.last
  rintro rfl
  cases hc

/-- A text without a line feed is a line with a character behind it that is no blank. -/
theorem isLine_concat {c : Char} (hl : '\n' ∉ l) (hc : isBlank c = false) :
    IsLine (l ++ [c]) where
  newline hmem := by
    rcases List.mem_append.1 hmem with hmem | hmem
    · exact hl hmem
    · obtain rfl := List.mem_singleton.1 hmem
      exact absurd hc (by decide)
  last := ⟨c, List.getLast?_concat, hc⟩

/-- What stands in front of a line belongs to it, unless it holds a line feed. -/
theorem IsLine.append {before : List Char} (h : IsLine l) (hbefore : '\n' ∉ before) :
    IsLine (before ++ l) where
  newline hmem := (List.mem_append.1 hmem).elim hbefore h.newline
  last := by
    obtain ⟨c, hc, hblank⟩ := h.last
    exact ⟨c, by rw [List.getLast?_append, hc, Option.some_or], hblank⟩

/-- A line does not end with a carriage return. -/
theorem dropReturn_of_isLine (h : IsLine l) : dropReturn l = l := by
  obtain ⟨c, hc, hblank⟩ := h.last
  refine if_neg fun hreturn => ?_
  obtain rfl := Option.some.inj (hc.symm.trans hreturn)
  exact absurd hblank (by decide)

/-! ## Blanks at the end -/

/-- Nothing is trimmed off a text that does not end with a blank. -/
theorem trimEnd_of_last {c : Char} (hc : l.getLast? = some c) (hblank : isBlank c = false) :
    trimEnd l = l := by
  obtain ⟨before, rfl⟩ := List.getLast?_eq_some_iff.1 hc
  rw [trimEnd, List.reverse_append, List.reverse_singleton, List.singleton_append,
    List.dropWhile_cons_of_neg (by rw [hblank]; exact Bool.false_ne_true)]
  simp

/-- A blank at the end is trimmed. -/
theorem trimEnd_concat {c : Char} (hblank : isBlank c) : trimEnd (l ++ [c]) = trimEnd l := by
  rw [trimEnd, List.reverse_append, List.reverse_singleton, List.singleton_append,
    List.dropWhile_cons_of_pos hblank, trimEnd]

/-- **A trimmed text** ends with a character that is no blank, unless it is empty. -/
theorem exists_last_trim {s : List Char} (h : trim s = s) (hne : s ≠ []) :
    ∃ c, s.getLast? = some c ∧ isBlank c = false := by
  have hrest : ((s.dropWhile isBlank).reverse.dropWhile isBlank).reverse = s := h
  obtain ⟨c, hc⟩ : ∃ c, s.getLast? = some c := ⟨_, List.getLast?_eq_some_getLast hne⟩
  refine ⟨c, hc, ?_⟩
  rw [← hrest, List.getLast?_reverse] at hc
  have hhead := List.head?_dropWhile_not isBlank (s.dropWhile isBlank).reverse
  rw [hc] at hhead
  simpa using hhead

/-! ## Cutting -/

/-- **A text is cut at the end of each of its lines.** -/
theorem splitWhere_ended (h : ∀ line ∈ lines, '\n' ∉ line) (hl : '\n' ∉ l) :
    splitWhere (· == '\n') (ended lines ++ l) = lines ++ [l] := by
  induction lines with
  | nil => exact splitWhere_of_not_mem hl
  | cons line lines ih =>
    rw [List.forall_mem_cons] at h
    have hcut : ended (line :: lines) ++ l = line ++ '\n' :: (ended lines ++ l) := by
      simp [ended]
    have hsplit := splitWhere_append (f := (· == '\n')) (beq_self_eq_true '\n') line
      (ended lines ++ l)
    rw [hcut, hsplit, splitWhere_of_not_mem h.1, ih h.2]
    rfl

/-- **The lines of a text** of which the last has no line feed behind it. -/
theorem linesOf_ended (h : ∀ line ∈ lines, IsLine line) (hl : IsLine l) :
    linesOf (ended lines ++ l) = lines ++ [l] := by
  have hreturn : lines.map dropReturn = lines :=
    (List.map_congr_left fun line hline => dropReturn_of_isLine (h line hline)).trans
      (List.map_id' lines)
  have hnil : l.isEmpty = false := List.isEmpty_eq_false_iff.2 hl.ne_nil
  rw [linesOf, splitWhere_ended (fun line hline => (h line hline).newline) hl.newline]
  simp [hreturn, hnil]

/-- **Lines are found again** in the text that they make once the blanks at its end are taken
away. -/
theorem linesOf_trimEnd (h : ∀ line ∈ lines, IsLine line) :
    linesOf (trimEnd (ended lines)) = lines := by
  rcases List.eq_nil_or_concat lines with rfl | ⟨before, line, rfl⟩
  · rfl
  · rw [List.concat_eq_append, List.forall_mem_append] at h
    have hline : IsLine line := h.2 line (List.mem_singleton_self line)
    obtain ⟨c, hc, hblank⟩ := hline.last
    have hended : ended (before ++ [line]) = ended before ++ line ++ ['\n'] := by
      simp [ended]
    have hlast : (ended before ++ line).getLast? = some c := by
      rw [List.getLast?_append, hc, Option.some_or]
    rw [List.concat_eq_append, hended, trimEnd_concat (by decide), trimEnd_of_last hlast hblank]
    exact linesOf_ended h.1 hline

end Text
end Pagewright
