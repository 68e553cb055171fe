/-
# Converting units on the way

The lengths of an integer are the number itself and the number with either unit. On a platform each
of them becomes the one that the platform writes (`transformValue_of_isLengthOf`), which is a length
of the same integer. So it does not matter to a platform whether another one has converted the value
before (`transformValue_trans`):

| | `12` | `12px` | `12rpx` |
| --- | --- | --- | --- |
| mini program | `12rpx` | `12rpx` | `12rpx` |
| browser | `12px` | `12px` | `12px` |
| native | `12` | `12` | `12` |
-/

import Pagewright.Proofs.Json.Numerals
import Pagewright.Proofs.Style.Idempotence
import Pagewright.Proofs.Style.Native

namespace Pagewright
namespace Style

variable {p q : Platform} {key : String} {n : ℤ} {v : Json}

/-! ## Integers as they are written -/

/-- The sign of an integer in decimal. -/
def signText (n : ℤ) : List Char := if n < 0 then ['-'] else []

/-- An integer is written with its sign and its digits. -/
theorem toList_toString (n : ℤ) :
    (toString n).toList = signText n ++ Nat.toDigits 10 n.natAbs := by
  cases n with
  | ofNat n =>
    change (toString n).toList = _
    simp [signText]
  | negSucc n =>
    change ("-" ++ toString (n + 1)).toList = _
    simp [signText, Int.negSucc_lt_zero]

/-- An integer is written as a number of a length. -/
theorem isNumber_toString (n : ℤ) : IsNumber (toString n).toList := by
  obtain ⟨hne, hdigits⟩ := Json.isDigits_toDigits n.natAbs
  rw [toList_toString]
  refine ⟨signText n, [], [], _, rfl, ?_, List.forall_mem_nil _, .inl rfl,
    fun c hc => Text.isDecimal_of_isDigit (hdigits c hc), hne⟩
  unfold signText
  split
  · exact .inr rfl
  · exact .inl rfl

/-- **An integer of 64 bits** is read from its decimal. -/
theorem bareNumber?_toString (hlow : -2 ^ 63 ≤ n) (hhigh : n < 2 ^ 63) :
    bareNumber? (toString n).toList = some (.integer n) := by
  obtain ⟨hne, hdigits⟩ := Json.isDigits_toDigits n.natAbs
  have hwritten : Plain.IsWritten ⟨n < 0, Nat.toDigits 10 n.natAbs, []⟩ (toString n).toList := by
    refine ⟨_, ?_, .inl ⟨rfl, rfl⟩, by simpa using hdigits, by simp⟩
    rw [toList_toString, signText]
    simp
  have hpoint : '.' ∉ (toString n).toList := by
    rw [toList_toString, List.mem_append]
    rintro (h | h)
    · unfold signText at h
      split at h
      · exact absurd (List.mem_singleton.1 h) (by decide)
      · cases h
    · exact absurd (hdigits '.' h) (by decide)
  have hpart : integerPart ⟨n < 0, Nat.toDigits 10 n.natAbs, []⟩ = n := by
    unfold integerPart
    rw [Text.ofDigits_toDigits]
    by_cases hsign : n < 0
    · rw [if_pos (decide_eq_true hsign)]
      omega
    · rw [if_neg (by simpa using hsign)]
      omega
  rw [bareNumber?_of_isWritten hwritten, hpart, if_pos ⟨hpoint, hlow, hhigh⟩]

/-! ## Lengths of an integer -/

/-- **The lengths of an integer:** the number, and the number with either unit. -/
inductive IsLengthOf (n : ℤ) : Json → Prop
  | number : IsLengthOf n (.number (.integer n))
  | px : IsLengthOf n (.string (toString n ++ "px"))
  | rpx : IsLengthOf n (.string (toString n ++ "rpx"))

/-- The length of an integer that a platform writes. -/
def lengthOn (p : Platform) (n : ℤ) : Json :=
  if unit p = "" then .number (.integer n) else .string (toString n ++ unit p)

/-- What a platform writes for an integer is a length of it. -/
theorem isLengthOf_lengthOn (p : Platform) (n : ℤ) : IsLengthOf n (lengthOn p n) := by
  unfold lengthOn unit
  cases p.family with
  | miniProgram => exact .rpx
  | browser => exact .px
  | native => exact .number

/-- **A number with a unit** becomes the length that the platform writes. -/
theorem rescale?_toString (hlow : -2 ^ 63 ≤ n) (hhigh : n < 2 ^ 63) {word : String}
    (hword : word = "px" ∨ word = "rpx") :
    (rescale? p ((toString n).toList ++ word.toList)).getD (.string (toString n ++ word)) =
      lengthOn p n := by
  have hnumber := isNumber_toString n
  by_cases hp : p = .rn
  · subst hp
    have hunit : IsUnitWord word.toList ∧ word.toList ≠ ['%'] := by
      rcases hword with rfl | rfl <;> decide
    rw [rescale?_rn_of_isUnitWord hnumber hunit.1 hunit.2, bareNumber?_toString hlow hhigh]
    rfl
  · have hunit := unit_ne_empty hp
    have hcases : word = replacedUnit p ∨ word = unit p := by
      rcases isMiniProgram_or_eq_h5 hp with hmini | rfl
      · obtain ⟨hreplaced, hwritten⟩ := units_of_isMiniProgram hmini
        rwa [hreplaced, hwritten]
      · exact hword.symm
    rw [lengthOn, if_neg hunit]
    rcases hcases with rfl | rfl
    · rw [(rescale?_eq_some_iff hunit).2 ⟨_, hnumber, rfl, rfl⟩]
      simp
    · rw [rescale?_unit hunit (hnumber.getLast?_ne (by decide)), Option.getD_none]

/-- **A length becomes the one that the platform writes.** -/
theorem transformValue_of_isLengthOf (hkey : ¬ isColor key) (hlow : -2 ^ 63 ≤ n)
    (hhigh : n < 2 ^ 63) (hv : IsLengthOf n v) : transformValue p key v = lengthOn p n := by
  have hstring (word : String) : transformValue p key (.string (toString n ++ word)) =
      (rescale? p ((toString n).toList ++ word.toList)).getD (.string (toString n ++ word)) := by
    rw [transformValue, if_neg hkey, String.toList_append]
  cases hv with
  | number => rfl
  | px => rw [hstring, rescale?_toString hlow hhigh (.inl rfl)]
  | rpx => rw [hstring, rescale?_toString hlow hhigh (.inr rfl)]

/-- **Converting on the way:** what a platform makes of a length that another platform has
converted is what it makes of the length itself. -/
theorem transformValue_trans (p q : Platform) (hkey : ¬ isColor key) (hlow : -2 ^ 63 ≤ n)
    (hhigh : n < 2 ^ 63) (hv : IsLengthOf n v) :
    transformValue q key (transformValue p key v) = transformValue q key v := by
  have hon (r : Platform) {w : Json} (hw : IsLengthOf n w) :
      transformValue r key w = lengthOn r n := transformValue_of_isLengthOf hkey hlow hhigh hw
  calc
    transformValue q key (transformValue p key v)
      = transformValue q key (lengthOn p n) := by rw [hon p hv]
    _ = lengthOn q n := hon q (isLengthOf_lengthOn p n)
    _ = transformValue q key v := (hon q hv).symm

/-- The hypotheses of `transformValue_trans` are satisfiable: the least integer of 64 bits, in the
unit of the mini programs, on its way to a browser through a native platform. -/
theorem transformValue_trans_least :
    ¬ isColor "marginTop" ∧ IsLengthOf (-2 ^ 63) (.string "-9223372036854775808rpx") ∧
      transformValue .h5 "marginTop"
          (transformValue .rn "marginTop" (.string "-9223372036854775808rpx")) =
        transformValue .h5 "marginTop" (.string "-9223372036854775808rpx") := by
  have hkey : ¬ isColor "marginTop" := by decide +kernel
  have hlength : IsLengthOf (-2 ^ 63) (.string "-9223372036854775808rpx") := by
    have htext : toString (-2 ^ 63 : ℤ) ++ "rpx" = "-9223372036854775808rpx" := by decide +kernel
    rw [← htext]
    exact .rpx
  exact ⟨hkey, hlength, transformValue_trans .rn .h5 hkey (by decide) (by decide) hlength⟩

end Style
end Pagewright
