/-
# Compact JSON is one line

The compact layout puts no line feed between the parts of a value. A line feed in a text is
escaped (`oneLine_quote`), and a numeral is made of digits and signs (`Number.oneLine_toText`). So a
value in the compact layout holds no line feed (`oneLine_compact`).
-/

import Pagewright.Proofs.Json.Numerals
import Pagewright.Proofs.Text.Lines
import Mathlib.Tactic.SplitIfs

namespace Pagewright

open Text (OneLine)

/-- A numeral is made of digits and signs. -/
theorem Number.oneLine_toText (n : Number) : OneLine n.toText := fun h =>
  absurd (Number.isNumeralChar_of_mem_toText h) (by decide)

namespace Json

/-! ## Texts -/

theorem hexDigit_ne_newline : ∀ n < 16, hexDigit n ≠ '\n' := by decide

/-- A line feed is escaped. -/
theorem newline_not_mem_escape (c : Char) : '\n' ∉ escape c := by
  unfold escape
  split_ifs with hquote hslash hfeed hreturn htab hback hform hcontrol
  iterate 7 decide
  · have hhigh := hexDigit_ne_newline (c.toNat / 16) (by omega)
    have hlow := hexDigit_ne_newline (c.toNat % 16) (by omega)
    simp [hhigh.symm, hlow.symm]
  · simpa using Ne.symm hfeed

/-- **A quoted text** is one line. -/
theorem oneLine_quote (s : String) : OneLine (quote s) := by
  rw [quote, Text.oneLine_ofList_iff, List.cons_append, List.mem_cons, List.mem_append,
    List.mem_flatMap]
  rintro (h | ⟨c, -, h⟩ | h)
  · cases h
  · exact newline_not_mem_escape c h
  · revert h
    decide

/-! ## Values -/

theorem oneLine_comma : OneLine "," := by
  decide

mutual

/-- **A value in the compact layout** holds no line feed. -/
theorem oneLine_compact : ∀ v : Json, OneLine v.compact
  | .null => by decide
  | .bool true => by decide
  | .bool false => by decide
  | .number n => n.oneLine_toText
  | .string s => oneLine_quote s
  | .array items => by
    have hitems := Text.oneLine_join oneLine_comma (oneLine_compactItems items)
    simpa only [compact, Text.oneLine_append_iff] using ⟨⟨by decide, hitems⟩, by decide⟩
  | .object fields => by
    have hfields := Text.oneLine_join oneLine_comma (oneLine_compactFields fields)
    simpa only [compact, Text.oneLine_append_iff] using ⟨⟨by decide, hfields⟩, by decide⟩

/-- Items in the compact layout hold no line feed. -/
theorem oneLine_compactItems : ∀ items : List Json, ∀ s ∈ compactItems items, OneLine s
  | [], _, h => by cases h
  | x :: xs, s, h => by
    rcases List.mem_cons.1 h with rfl | h
    · exact oneLine_compact x
    · exact oneLine_compactItems xs s h

/-- Fields in the compact layout hold no line feed. -/
theorem oneLine_compactFields :
    ∀ fields : List (String × Json), ∀ s ∈ compactFields fields, OneLine s
  | [], _, h => by cases h
  | (k, v) :: rest, s, h => by
    rcases List.mem_cons.1 h with rfl | h
    · simpa only [Text.oneLine_append_iff] using
        ⟨⟨oneLine_quote k, by decide⟩, oneLine_compact v⟩
    · exact oneLine_compactFields rest s h

end

end Json
end Pagewright
