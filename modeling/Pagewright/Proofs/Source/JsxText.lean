/-
# Text between tags is read back

A text between tags is written as it is, or as a JSON string in braces. In braces any text is read
back (`readText_braced_quote`). As it is a text is read by the rules for text, which fold its line
breaks away and replace its references, so it is read back if it has neither. Text with a line feed
is never written as it is, but a carriage return and a reference are not looked for: whether a
text survives is decided by these two (`readText_text_iff`).
-/

import Pagewright.Proofs.Script.TextReading
import Pagewright.Source.Jsx

namespace Pagewright
namespace Source
namespace Jsx

open Script (HasReference isFolded readLine readLine_append readLine_reference readReference
  readScalar readText)

/-- **A JSON string in braces** is read as the text that it denotes. -/
theorem readText_braced_quote (s : String) : readText (braced (Json.quote s)) = s := by
  have hline : (braced (Json.quote s)).toList =
      '\x7b' :: ((Script.Scalar.string s).source ++ ['\x7d']) := by
    rw [braced, String.toList_append, String.toList_append]
    rfl
  unfold readText
  rw [hline]
  simp only [Script.readScalar_source]

/-- **A line without a brace in front** is read by the rules for text. -/
theorem readText_of_head {s : String} (h : s.toList.head? ≠ some '\x7b') :
    readText s = String.ofList (readLine s.toList) := by
  unfold readText
  split
  · next heq => exact absurd (congrArg List.head? heq) h
  · rfl

/-- No character of a plain text means anything between tags. -/
theorem not_isMarkupChar_of_isPlainText {s : String} (h : isPlainText s) :
    ∀ c ∈ s.toList, ¬ isMarkupChar c := by
  simp only [isPlainText, Bool.and_eq_true, Bool.not_eq_true'] at h
  exact List.any_eq_false.1 h.2

/-- **A plain text** is read as itself exactly if it has no carriage return and no reference. -/
theorem readText_plain_iff {s : String} (h : isPlainText s) :
    readText s = s ↔ '\r' ∉ s.toList ∧ ¬ HasReference s.toList := by
  have hmarkup := not_isMarkupChar_of_isPlainText h
  have hhead : s.toList.head? ≠ some '\x7b' := fun hhead =>
    hmarkup _ (List.mem_of_mem_head? hhead) (by decide)
  have hfolded : (∀ c ∈ s.toList, ¬ isFolded c) ↔ '\r' ∉ s.toList := by
    constructor
    · intro hall hmem
      exact hall _ hmem (by decide)
    · intro hreturn c hc hfolded
      rcases Bool.or_eq_true_iff.1 hfolded with hc' | hc'
      · obtain rfl := of_decide_eq_true hc'
        exact hmarkup _ hc (by decide)
      · obtain rfl := of_decide_eq_true hc'
        exact hreturn hc
  rw [readText_of_head hhead, ← hfolded, ← Script.readLine_eq_self_iff, ← String.toList_inj,
    String.toList_ofList]

/-- **When a text survives between tags.** A text is read back exactly if it is not written as it
is, or has neither a carriage return nor a reference to a character. -/
theorem readText_text_iff (s : String) :
    readText (text s) = s ↔
      (isPlainText s → '\r' ∉ s.toList ∧ ¬ HasReference s.toList) := by
  unfold text
  split
  · next h => rw [readText_plain_iff h, imp_iff_right h]
  · next h => exact iff_of_true (readText_braced_quote s) fun hplain => absurd hplain h

/-- **An ampersand is lost:** a text that spells the reference to one is written as it is, and read
as the ampersand. -/
theorem readText_text_ampersand :
    text "Tom &amp; Jerry" = "Tom &amp; Jerry" ∧
      readText (text "Tom &amp; Jerry") = "Tom & Jerry" ∧
      readText (text "Tom &amp; Jerry") ≠ "Tom &amp; Jerry" := by
  have hplain : text "Tom &amp; Jerry" = "Tom &amp; Jerry" := by decide
  have hreference : readReference "amp; Jerry".toList = some ('&', " Jerry".toList) := by
    decide +kernel
  have hfirst : "Tom ".toList.all fun c => !isFolded c && c != '&' := by decide
  have hlast : " Jerry".toList.all fun c => !isFolded c && c != '&' := by decide
  have hread : readText (text "Tom &amp; Jerry") = "Tom & Jerry" := by
    have hcut : "Tom &amp; Jerry".toList =
        "Tom ".toList ++ '&' :: "amp; Jerry".toList := by decide
    have hrest : readLine " Jerry".toList = " Jerry".toList := by
      rw [← List.append_nil " Jerry".toList, readLine_append hlast, readLine]
    rw [hplain, readText_of_head (by decide), hcut, readLine_append hfirst,
      readLine_reference hreference, hrest]
    decide
  exact ⟨hplain, hread, by rw [hread]; decide⟩

end Jsx
end Source
end Pagewright
