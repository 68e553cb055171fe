/-
# What a native platform makes of a length

A native platform takes bare numbers, so it strips every length of its unit, whatever the unit is:

| text | value |
| --- | --- |
| a number and `%` | the text |
| a number and any other letters of ASCII and percent signs | the number |
| a number that cannot be read, and anything | the text |
| any other text | the text |

A number cannot be read if it has digits of another script or is too large for a finite float
(`bareNumber?_eq_none_iff`). So whether a text stays does not depend on its unit being one of a
length (`transformValue_rn_iff`): an angle loses its unit too.
-/

import Pagewright.Proofs.Binary64.Plain
import Pagewright.Proofs.Style.Lengths

namespace Pagewright
namespace Style

open Binary64 (overflow)

variable {number word s : List Char} {key : String}

/-! ## Numbers that cannot be read -/

/-- **What keeps a number from being read:** a digit that is not of ASCII, or its size. -/
def Unreadable (number : List Char) : Prop :=
  (∃ c ∈ number, Text.isDecimal c ∧ ¬ c.isDigit) ∨
    ∃ x : Plain, x.IsWritten number ∧ overflow ≤ x.magnitude

/-- A number in digits of ASCII is a plain decimal. -/
theorem IsNumber.exists_plain (h : IsNumber number)
    (hascii : ∀ c ∈ number, Text.isDecimal c → c.isDigit) : ∃ x : Plain, x.IsWritten number := by
  obtain ⟨sign, whole, point, last, rfl, hsign, hwhole, hpoint, hlast, hne⟩ := h
  obtain ⟨negative, rfl⟩ : ∃ negative : Bool, sign = if negative then ['-'] else [] := by
    rcases hsign with rfl | rfl
    · exact ⟨false, rfl⟩
    · exact ⟨true, rfl⟩
  have hdigits : ∀ c ∈ whole ++ last, c.isDigit := by
    intro c hc
    refine hascii c (List.mem_append_right _ ?_) ((hwhole.append hlast) c hc)
    rcases List.mem_append.1 hc with hc | hc
    · exact List.mem_append_left _ hc
    · exact List.mem_append_right _ (List.mem_append_right _ hc)
  rcases hpoint with rfl | rfl
  · exact ⟨⟨negative, whole ++ last, []⟩, _, rfl, .inl ⟨rfl, rfl⟩, by simpa using hdigits,
      by simp [hne]⟩
  · exact ⟨⟨negative, whole, last⟩, _, rfl, .inr rfl, hdigits, by simp [hne]⟩

/-- The integers of 64 bits are far from the overflow. -/
theorem two_pow_lt_overflow : (2 : ℚ) ^ 63 < overflow := by
  have hsplit : (2 : ℚ) ^ 1024 = 2 ^ 970 * 2 ^ 54 := pow_add 2 970 54
  have hstep : (2 : ℚ) ^ 63 ≤ 2 ^ 970 := pow_le_pow_right₀ (by norm_num) (by norm_num)
  have hpos : (0 : ℚ) < 2 ^ 63 := by positivity
  rw [overflow, hsplit]
  generalize (2 : ℚ) ^ 970 = step at hstep ⊢
  linarith

/-- A plain decimal without its fraction. -/
def integerPart (x : Plain) : ℤ :=
  if x.negative then -(Text.ofDigits x.whole : ℤ) else Text.ofDigits x.whole

/-- **A plain decimal is read** as an integer of 64 bits, if it is one without a point, and
otherwise as the nearest float. -/
theorem bareNumber?_of_isWritten {x : Plain} (hx : x.IsWritten number) :
    bareNumber? number =
      if '.' ∉ number ∧ -2 ^ 63 ≤ integerPart x ∧ integerPart x < 2 ^ 63 then
        some (.integer (integerPart x))
      else x.float?.map .float := by
  rw [bareNumber?, Plain.parse?_eq_some_iff.2 hx]
  rfl

/-- **An integer of 64 bits** is not too large. -/
theorem magnitude_lt_overflow {x : Plain} (hx : x.IsWritten number) (hpoint : '.' ∉ number)
    (hlow : -2 ^ 63 ≤ integerPart x) (hhigh : integerPart x < 2 ^ 63) : x.magnitude < overflow := by
  obtain ⟨body, rfl, ⟨-, hnil⟩ | rfl, -⟩ := hx
  · have hsize : Text.ofDigits x.whole ≤ 2 ^ 63 := by
      unfold integerPart at hlow hhigh
      cases hnegative : x.negative with
      | true =>
        rw [hnegative, if_pos rfl] at hlow
        omega
      | false =>
        rw [hnegative, if_neg Bool.false_ne_true] at hhigh
        omega
    have hsize : (Text.ofDigits x.whole : ℚ) ≤ 2 ^ 63 := by exact_mod_cast hsize
    rw [Plain.magnitude, hnil, List.append_nil, List.length_nil, Nat.cast_zero, neg_zero, zpow_zero,
      mul_one]
    exact hsize.trans_lt two_pow_lt_overflow
  · exact absurd (by simp) hpoint

/-- A plain decimal is read unless it is too large. -/
theorem bareNumber?_eq_none_iff_of_isWritten {x : Plain} (hx : x.IsWritten number) :
    bareNumber? number = none ↔ overflow ≤ x.magnitude := by
  rw [bareNumber?_of_isWritten hx]
  split
  · next hinteger =>
    have hlt := magnitude_lt_overflow hx hinteger.1 hinteger.2.1 hinteger.2.2
    simp [hlt]
  · rw [Option.map_eq_none_iff, Plain.float?_eq_none_iff]

/-- **A number is read** unless it has a digit of another script or is too large. -/
theorem bareNumber?_eq_none_iff (h : IsNumber number) :
    bareNumber? number = none ↔ Unreadable number := by
  by_cases hascii : ∀ c ∈ number, Text.isDecimal c → c.isDigit
  · obtain ⟨x, hx⟩ := h.exists_plain hascii
    rw [bareNumber?_eq_none_iff_of_isWritten hx]
    constructor
    · exact fun hlarge => .inr ⟨x, hx, hlarge⟩
    · rintro (⟨c, hc, hdecimal, hother⟩ | ⟨y, hy, hlarge⟩)
      · exact absurd (hascii c hc hdecimal) hother
      · have hsame : some y = some x := by
          rw [← Plain.parse?_eq_some_iff.2 hy, ← Plain.parse?_eq_some_iff.2 hx]
        rwa [← Option.some.inj hsame]
  · push Not at hascii
    refine iff_of_true ?_ (.inl hascii)
    obtain ⟨c, hc, hdecimal, hother⟩ := hascii
    have hread : Plain.parse? number = none := by
      refine Option.eq_none_iff_forall_ne_some.2 fun x hx => ?_
      rcases (Plain.parse?_eq_some_iff.1 hx).isDigit_or_eq hc with h | rfl | rfl
      · exact hother h
      · exact absurd hdecimal (by decide)
      · exact absurd hdecimal (by decide)
    rw [bareNumber?, hread, Option.bind_none]

/-! ## Texts on a native platform -/

/-- **A unit is stripped** unless it is the percent sign. -/
theorem rescale?_rn_of_isUnitWord (hnumber : IsNumber number) (hunit : IsUnitWord word)
    (hpercent : word ≠ ['%']) :
    rescale? .rn (number ++ word) = (bareNumber? number).map .number := by
  rw [rescale?, Length.parse?_append hnumber hunit, Option.bind_some]
  exact if_neg hpercent

/-- What is behind a number and no unit, or the percent sign, is not stripped. -/
theorem rescale?_rn_eq_none (hnumber : IsNumber number) (hword : ∀ c ∈ word, ¬ Text.isDecimal c)
    (hother : ¬ (IsUnitWord word ∧ word ≠ ['%'])) : rescale? .rn (number ++ word) = none := by
  refine Option.eq_none_iff_forall_ne_some.2 fun v hv => hother ?_
  obtain ⟨number', unit, hnumber', hunit, hsplit, hpercent, -⟩ :=
    (rescale?_eq_some_iff_of_native rfl).1 hv
  obtain ⟨rfl, rfl⟩ := hnumber.append_inj hnumber' hword hunit.not_isDecimal hsplit
  exact ⟨hunit, hpercent⟩

/-- **A number and a text without digits behind it:** the text is stripped if it is a unit, other
than the percent sign, and the number can be read. -/
theorem transformValue_rn (hkey : ¬ isColor key) (hnumber : IsNumber number)
    (hword : ∀ c ∈ word, ¬ Text.isDecimal c) :
    transformValue .rn key (.string (String.ofList (number ++ word))) =
      if IsUnitWord word ∧ word ≠ ['%'] then
        ((bareNumber? number).map .number).getD (.string (String.ofList (number ++ word)))
      else .string (String.ofList (number ++ word)) := by
  rw [transformValue, if_neg hkey, String.toList_ofList]
  split
  · next hstripped => rw [rescale?_rn_of_isUnitWord hnumber hstripped.1 hstripped.2]
  · next hkept => rw [rescale?_rn_eq_none hnumber hword hkept, Option.getD_none]

/-- **What a native platform keeps.** Of a number and a text without digits behind it, such as a
word of letters, it keeps the whole exactly if that text is the percent sign or has a character that
no unit has, or the number cannot be read. In every other case it keeps the number alone, whatever
the word is. -/
theorem transformValue_rn_iff (hkey : ¬ isColor key) (hnumber : IsNumber number)
    (hword : ∀ c ∈ word, ¬ Text.isDecimal c) :
    (transformValue .rn key (.string (String.ofList (number ++ word))) =
        .string (String.ofList (number ++ word)) ↔
      (∃ c ∈ word, ¬ isUnitChar c) ∨ word = ['%'] ∨ Unreadable number) ∧
    ∀ n, transformValue .rn key (.string (String.ofList (number ++ word))) = .number n ↔
      (∀ c ∈ word, isUnitChar c) ∧ word ≠ ['%'] ∧ bareNumber? number = some n := by
  rw [transformValue_rn hkey hnumber hword, ← bareNumber?_eq_none_iff hnumber]
  by_cases hstripped : IsUnitWord word ∧ word ≠ ['%']
  · have hunit : ∀ c ∈ word, isUnitChar c := hstripped.1
    have hnone : ¬ ∃ c ∈ word, ¬ isUnitChar c := fun ⟨c, hc, hother⟩ => hother (hunit c hc)
    rw [if_pos hstripped, or_iff_right hnone, or_iff_right hstripped.2]
    constructor
    · cases bareNumber? number <;> simp
    · intro n
      rw [and_iff_right hunit, and_iff_right hstripped.2]
      cases bareNumber? number <;> simp
  · rw [if_neg hstripped]
    constructor
    · refine iff_of_true rfl ?_
      by_cases hunit : IsUnitWord word
      · exact .inr (.inl (not_not.1 fun hpercent => hstripped ⟨hunit, hpercent⟩))
      · unfold IsUnitWord at hunit
        push Not at hunit
        exact .inl hunit
    · intro n
      refine iff_of_false (by rintro ⟨⟩) ?_
      rintro ⟨hunit, hpercent, -⟩
      exact hstripped ⟨hunit, hpercent⟩

/-- The hypotheses of `transformValue_rn_iff` are satisfiable: a width of twelve pixels becomes the
number. -/
theorem transformValue_rn_twelvePixels :
    ¬ isColor "width" ∧ IsNumber ['1', '2'] ∧ (∀ c ∈ ['p', 'x'], ¬ Text.isDecimal c) ∧
      transformValue .rn "width" (.string (String.ofList (['1', '2'] ++ ['p', 'x']))) =
        .number (.integer 12) := by
  have hkey : ¬ isColor "width" := by decide +kernel
  have hnumber : IsNumber ['1', '2'] :=
    ⟨[], ['1'], [], ['2'], rfl, .inl rfl, by decide, .inl rfl, by decide, by decide⟩
  have hunit : IsUnitWord ['p', 'x'] := by decide
  have hword : ∀ c ∈ ['p', 'x'], ¬ Text.isDecimal c := hunit.not_isDecimal
  exact ⟨hkey, hnumber, hword, ((transformValue_rn_iff hkey hnumber hword).2 (.integer 12)).2
    ⟨hunit, by decide, by decide +kernel⟩⟩

/-- **An angle loses its unit:** the right angle becomes a number, although its unit is none of a
length. -/
theorem transformValue_rn_rightAngle :
    (¬ isColor "rotate" ∧
      transformValue .rn "rotate" (.string "90deg") = .number (.integer 90)) ∧
    ¬ transformValue .rn "rotate" (.string "90deg") = .string "90deg" := by
  decide +kernel

end Style
end Pagewright
