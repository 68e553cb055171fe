/-
# Where a text is no page

A text that is no page is refused after a number of bytes, of which only the line and the column
are reported. The mark in the text is made from these again:

| bytes taken | mark |
| --- | --- |
| none | the start of the text |
| any, the last one a line feed | right behind it |
| any others | the last one |

The reader takes no more bytes than there are (`Page.failsWithin_parse`), and where it does not the
line and the column tell how many they were (`Text.offset?_positionAt`). So a mark is on the last
byte that was taken, unless that ends a line, and never outside the text (`parsePage_mark`).
-/

import Pagewright.Manifest.PageFile
import Pagewright.Proofs.Component.Faults
import Pagewright.Proofs.Text.Positions
import Mathlib

namespace Pagewright
namespace Manifest

/-- A text has as many bytes as its size says. -/
theorem length_bytesOf (text : String) : (bytesOf text).length = text.utf8ByteSize := by
  rw [bytesOf, Text.toList_bytes, ← text.size_toByteArray]
  rfl

/-- **What is refused** is a text that is no page, marked where the reader stopped, or a page
without a name. -/
theorem parsePage_eq_error_iff {text : String} {f : Failure} :
    parsePage text = .error f ↔
      (∃ taken, Page.parse text = .error taken ∧
          f = .malformedPage (Text.offset? (bytesOf text) (Text.positionAt (bytesOf text) taken))) ∨
        f = .unnamedPage ∧
          ∃ page, Page.parse text = .ok page ∧ (Text.trim page.name.toList).isEmpty := by
  rw [parsePage]
  cases hparse : Page.parse text with
  | error taken =>
    constructor
    · rintro ⟨⟩
      exact .inl ⟨taken, rfl, rfl⟩
    · rintro (⟨taken', htaken, rfl⟩ | ⟨-, page, hpage, -⟩)
      · obtain rfl := Except.error.inj htaken
        rfl
      · cases hpage
  | ok page =>
    dsimp only
    split
    · next hname =>
      constructor
      · rintro ⟨⟩
        exact .inr ⟨rfl, page, rfl, hname⟩
      · rintro (⟨taken, htaken, -⟩ | ⟨rfl, -⟩)
        · cases htaken
        · rfl
    · next hname =>
      refine iff_of_false nofun ?_
      rintro (⟨taken, htaken, -⟩ | ⟨-, page', hpage, hblank⟩)
      · cases htaken
      · obtain rfl := Except.ok.inj hpage
        exact hname hblank

/-- **A mark is on the last byte that was taken,** or right behind it where that ends a line, and
never outside the text. The line and the column of every place in a text lead back to it. A text is
no page if its reader stops in it, and then it is marked there; no other refusal of the text has a
mark. -/
theorem parsePage_mark (text : String) :
    (∀ k ≤ text.utf8ByteSize,
        Text.offset? (bytesOf text) (Text.positionAt (bytesOf text) k) =
          some (Text.lastTaken (bytesOf text) k)) ∧
      (∀ p mark, Text.offset? (bytesOf text) p = some mark → mark ≤ text.utf8ByteSize) ∧
      (∀ taken, Page.parse text = .error taken →
        taken ≤ text.utf8ByteSize ∧
          ∃ f, parsePage text = .error f ∧
            f.span? = some ⟨Text.lastTaken (bytesOf text) taken, 0⟩) ∧
      ∀ f span, parsePage text = .error f → f.span? = some span →
        ∃ taken, Page.parse text = .error taken := by
  have hback : ∀ k ≤ text.utf8ByteSize,
      Text.offset? (bytesOf text) (Text.positionAt (bytesOf text) k) =
        some (Text.lastTaken (bytesOf text) k) := by
    intro k hk
    exact Text.offset?_positionAt (by rwa [length_bytesOf])
  refine ⟨hback, fun p mark hmark => ?_, fun taken hparse => ?_, fun f span hf hspan => ?_⟩
  · rw [← length_bytesOf]
    exact Text.le_length_of_offset? hmark
  · have htaken := (Page.failsWithin_parse text).le_of_eq_error hparse
    refine ⟨htaken, _, parsePage_eq_error_iff.2 (.inl ⟨taken, hparse, rfl⟩), ?_⟩
    rw [hback taken htaken]
    rfl
  · rcases parsePage_eq_error_iff.1 hf with ⟨taken, hparse, -⟩ | ⟨rfl, -⟩
    · exact ⟨taken, hparse⟩
    · cases hspan

/-- A text that ends behind a line feed, before its object does. -/
def openText : String := "\x7b\"é\": 0,\n"

/-- A text with a name but no value for it, on the second of its lines. -/
def valuelessText : String := "\x7b\n  \"name\": ,\n\x7d"

/-- The hypotheses of `parsePage_mark` are satisfiable: one text is marked at its end, behind a line
feed, and one at the comma where a value should be. -/
theorem openText_mark :
    (Page.parse openText = .error 10 ∧
        ∃ f, parsePage openText = .error f ∧ f.span? = some ⟨10, 0⟩) ∧
      (Page.parse valuelessText = .error 13 ∧
        ∃ f, parsePage valuelessText = .error f ∧ f.span? = some ⟨12, 0⟩) ∧
      (2 ≤ valuelessText.utf8ByteSize ∧
        Text.offset? (bytesOf valuelessText) (Text.positionAt (bytesOf valuelessText) 2) =
          some 2) := by
  have hopen : Page.parse openText = .error 10 := by cbv
  have hvalueless : Page.parse valuelessText = .error 13 := by cbv
  have hend : Text.lastTaken (bytesOf openText) 10 = 10 := by
    rw [bytesOf, Text.toList_bytes]
    decide +kernel
  have hcomma : Text.lastTaken (bytesOf valuelessText) 13 = 12 := by
    rw [bytesOf, Text.toList_bytes]
    decide +kernel
  have hline : Text.lastTaken (bytesOf valuelessText) 2 = 2 := by
    rw [bytesOf, Text.toList_bytes]
    decide +kernel
  have hle : 2 ≤ valuelessText.utf8ByteSize := by decide +kernel
  obtain ⟨hback, -, hmark, -⟩ := parsePage_mark valuelessText
  refine ⟨⟨hopen, ?_⟩, ⟨hvalueless, ?_⟩, hle, ?_⟩
  · rw [← hend]
    exact ((parsePage_mark openText).2.2.1 10 hopen).2
  · rw [← hcomma]
    exact (hmark 13 hvalueless).2
  · rw [hback 2 hle, hline]

end Manifest
end Pagewright
