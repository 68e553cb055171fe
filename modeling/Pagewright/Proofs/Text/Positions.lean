/-
# From a position back to the bytes

The line of a position tells how many lines end in front of it, and the column how many bytes of
its own line do. The lines in front and these bytes make up all bytes in front of the position
(`lengthOfLines_add_column`). What is marked is the byte behind which the position is:

| bytes in front | column | marked |
| --- | ---: | --- |
| none, or the last one is a line feed | 0 | the position itself |
| any others | positive | the last one |

So a position marks the last byte in front of it unless that ends a line (`offset?_positionAt`).
No position, whatever its line and column, marks anything behind the end of the text
(`le_length_of_offset?`).
-/

import Pagewright.Text.Position
import Mathlib.Data.List.TakeWhile

namespace Pagewright
namespace Text

variable {bytes before : List UInt8} {k : Nat}

/-- Where the last of the first `k` bytes is. If there is none, or if it ends a line, the place
behind them counts. -/
def lastTaken (bytes : List UInt8) (k : Nat) : Nat :=
  if 0 < k ∧ bytes[k - 1]? ≠ some lineFeed then k - 1 else k

/-! ## Lines -/

/-- **Lines that end** are as long as the text in front of what follows them. -/
theorem lengthOfLines_append (h : ∀ b ∈ before.getLast?, b = lineFeed) (rest : List UInt8) :
    lengthOfLines (before.count lineFeed) (before ++ rest) = before.length := by
  induction before with
  | nil =>
    rw [List.count_nil, lengthOfLines]
    rfl
  | cons b before ih =>
    have htail : ∀ c ∈ before.getLast?, c = lineFeed := by
      intro c hc
      refine h c ?_
      rw [List.getLast?_cons, hc]
      rfl
    by_cases hb : b = lineFeed
    · rw [hb, List.count_cons_self, List.cons_append, lengthOfLines, if_pos rfl, ih htail,
        List.length_cons, Nat.add_comm]
    · -- the line of this byte ends further on
      have hmem : lineFeed ∈ before := by
        cases hlast : before.getLast? with
        | none =>
          rw [List.getLast?_eq_none_iff.1 hlast] at h
          exact absurd (h b rfl) hb
        | some c => exact htail c hlast ▸ List.mem_of_getLast? hlast
      obtain ⟨n, hn⟩ := Nat.exists_eq_add_of_lt (List.count_pos_iff.2 hmem)
      have hline := ih htail
      rw [hn] at hline
      rw [List.count_cons_of_ne hb, hn, List.cons_append, lengthOfLines, if_neg hb, hline,
        List.length_cons, Nat.add_comm]

/-- What stands in front of a place is lines that end, and a part of a line. -/
theorem exists_lines (before : List UInt8) :
    ∃ lines line, before = lines ++ line ∧ (∀ b ∈ lines.getLast?, b = lineFeed) ∧
      lineFeed ∉ line ∧ line.length = (before.reverse.takeWhile (· != lineFeed)).length := by
  refine ⟨(before.reverse.dropWhile (· != lineFeed)).reverse,
    (before.reverse.takeWhile (· != lineFeed)).reverse, ?_, ?_, ?_, List.length_reverse⟩
  · rw [← List.reverse_append, List.takeWhile_append_dropWhile, List.reverse_reverse]
  · intro b hb
    rw [List.getLast?_reverse] at hb
    have hhead := List.head?_dropWhile_not (· != lineFeed) before.reverse
    rw [hb] at hhead
    simpa using hhead
  · intro hmem
    have hne := List.mem_takeWhile_imp (List.mem_reverse.1 hmem)
    simp at hne

/-! ## Positions -/

/-- **A position tells its place:** the lines in front of its own, and the column. -/
theorem lengthOfLines_add_column (h : k ≤ bytes.length) :
    lengthOfLines ((positionAt bytes k).line - 1) bytes + (positionAt bytes k).column = k := by
  obtain ⟨lines, line, hsplit, hlast, hline, hcolumn⟩ := exists_lines (bytes.take k)
  have hcount : (bytes.take k).count lineFeed = lines.count lineFeed := by
    rw [hsplit, List.count_append, List.count_eq_zero.2 hline, Nat.add_zero]
  have hbytes : bytes = lines ++ (line ++ bytes.drop k) := by
    rw [← List.append_assoc, ← hsplit, List.take_append_drop]
  have hlines : lengthOfLines (lines.count lineFeed) bytes = lines.length := by
    rw [hbytes]
    exact lengthOfLines_append hlast _
  have hlength : lines.length + line.length = k := by
    rw [← List.length_append, ← hsplit, List.length_take_of_le h]
  rw [positionAt, Nat.add_sub_cancel_left, hcount, hlines, ← hcolumn, hlength]

/-- **A column is zero** at the start of the text and right behind a line feed. -/
theorem column_positionAt_pos_iff (h : k ≤ bytes.length) :
    0 < (positionAt bytes k).column ↔ 0 < k ∧ bytes[k - 1]? ≠ some lineFeed := by
  cases k with
  | zero => simp [positionAt]
  | succ k =>
    have hk : k < bytes.length := h
    have htake : (bytes.take (k + 1)).reverse = bytes[k] :: (bytes.take k).reverse := by
      rw [List.take_succ_eq_append_getElem hk, List.reverse_append]
      rfl
    rw [positionAt, htake, List.takeWhile_cons, Nat.add_sub_cancel,
      List.getElem?_eq_getElem hk]
    by_cases hfeed : bytes[k] = lineFeed <;> simp [hfeed]

/-- **What a position marks:** the last byte in front of it, unless there is none or it ends a
line. -/
theorem offset?_positionAt (h : k ≤ bytes.length) :
    offset? bytes (positionAt bytes k) = some (lastTaken bytes k) := by
  have hplace := lengthOfLines_add_column h
  have hcolumn := column_positionAt_pos_iff h
  have hline : (positionAt bytes k).line ≠ 0 := by
    rw [positionAt]
    exact Nat.ne_of_gt (Nat.lt_add_right _ Nat.one_pos)
  rw [offset?, if_neg hline, lastTaken, ← if_congr hcolumn rfl rfl]
  refine congrArg some ?_
  split <;> omega

/-- **Nothing behind the end** of the text is marked. -/
theorem le_length_of_offset? {p : Position} {offset : Nat} (h : offset? bytes p = some offset) :
    offset ≤ bytes.length := by
  rw [offset?] at h
  split at h
  · cases h
  · obtain rfl := Option.some.inj h
    exact Nat.min_le_right ..

end Text
end Pagewright
