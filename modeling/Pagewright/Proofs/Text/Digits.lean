/-
# What is no decimal digit

Besides those of ASCII, the digits lie above the Latin letters and in gaps between the blank
characters (`zero_spec`). So a run of digits ends where a letter of ASCII or a blank stands.
-/

import Pagewright.Proofs.Text.Names
import Pagewright.Text.Blank
import Pagewright.Text.Digit
import Mathlib.Data.List.Basic

namespace Pagewright
namespace Text

/-- **Where the digits lie:** those of ASCII, and those of other scripts in the gaps between the
blank characters that follow the Latin ones. -/
theorem zero_spec : ∀ z ∈ decimalZeros,
    z = 0x30 ∨ (0x660 ≤ z ∧ z + 10 ≤ 0x1680) ∨ (0x1681 ≤ z ∧ z + 10 ≤ 0x2000) ∨
      0x3001 ≤ z := by
  decide

/-- A decimal digit is at most nine behind the zero of its script. -/
theorem exists_zero {c : Char} (h : isDecimal c) :
    ∃ z ∈ decimalZeros, z ≤ c.toNat ∧ c.toNat < z + 10 := by
  simpa [isDecimal] using h

/-- A letter of ASCII is no digit. -/
theorem not_isDecimal_of_isAlpha {c : Char} (h : c.isAlpha) : ¬ isDecimal c := by
  intro hdecimal
  obtain ⟨z, hz, hlow, hhigh⟩ := exists_zero hdecimal
  have hspec := zero_spec z hz
  have hletter : (97 ≤ c.toNat ∧ c.toNat ≤ 122) ∨ (65 ≤ c.toNat ∧ c.toNat ≤ 90) := by
    rw [← Naming.isAsciiLetter_eq_isAlpha, Naming.isAsciiLetter, Bool.or_eq_true,
      Naming.isAsciiLower_iff, Naming.isAsciiUpper_iff] at h
    exact h
  omega

/-- A blank is no digit. -/
theorem not_isDecimal_of_isBlank {c : Char} (h : isBlank c) : ¬ isDecimal c := by
  intro hdecimal
  obtain ⟨z, hz, hlow, hhigh⟩ := exists_zero hdecimal
  have hspec := zero_spec z hz
  simp only [isBlank, Bool.or_eq_true, Bool.and_eq_true, decide_eq_true_eq, beq_iff_eq] at h
  omega

end Text
end Pagewright
