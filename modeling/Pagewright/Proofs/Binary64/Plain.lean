/-
# Reading plain decimals

A plain decimal is written as an optional minus, digits of ASCII, and possibly a point with digits
behind it; there is at least one digit, on either side of the point. Nothing else is read as one
(`Plain.parse?_eq_some_iff`). It is too large for a number from halfway between the greatest finite
one and `2 ^ 1024` on (`Plain.float?_eq_none_iff`), and it reads as one within half of the steps
next to one (`Plain.float?_eq_one_iff`).
-/

import Pagewright.Binary64.Plain
import Pagewright.Proofs.Binary64.Reading

namespace Pagewright

namespace Plain

open Binary64 (overflow)

variable {s body : List Char} {negative : Bool} {x : Plain}

/-! ## How a plain decimal is written -/

/-- The parts of a plain decimal behind its sign; without a point there is no fraction. -/
def HasBody (x : Plain) (body : List Char) : Prop :=
  (body = x.whole ∧ x.fraction = [] ∨ body = x.whole ++ '.' :: x.fraction) ∧
    (∀ c ∈ x.whole ++ x.fraction, c.isDigit) ∧ x.whole ++ x.fraction ≠ []

/-- **How a plain decimal is written:** a minus if it is negative, and its parts. -/
def IsWritten (x : Plain) (s : List Char) : Prop :=
  ∃ body, s = (if x.negative then ['-'] else []) ++ body ∧ x.HasBody body

/-- The plain decimal of a text behind its sign. -/
def ofBody? (negative : Bool) (body : List Char) : Option Plain :=
  let (whole, fraction) := (Text.splitFirst? '.' body).getD (body, [])
  if (whole ++ fraction).isEmpty || !(whole ++ fraction).all Char.isDigit then none
  else some ⟨negative, whole, fraction⟩

theorem parse?_minus (body : List Char) : parse? ('-' :: body) = ofBody? true body := rfl

/-- A decimal without a minus in front is not negative. -/
theorem parse?_of_head?_ne (h : s.head? ≠ some '-') : parse? s = ofBody? false s := by
  unfold parse?
  split
  next negative body hsign =>
  split at hsign
  · exact absurd rfl h
  · cases hsign
    rfl

/-- Digits are taken if there are any, and nothing but digits. -/
theorem ofDigits?_eq_some_iff {whole fraction : List Char} :
    (if (whole ++ fraction).isEmpty || !(whole ++ fraction).all Char.isDigit then none
      else some (⟨negative, whole, fraction⟩ : Plain)) = some x ↔
      x = ⟨negative, whole, fraction⟩ ∧ (∀ c ∈ whole ++ fraction, c.isDigit) ∧
        whole ++ fraction ≠ [] := by
  rw [Option.ite_none_left_eq_some, Option.some.injEq, Bool.or_eq_true, not_or, List.isEmpty_iff,
    Bool.not_eq_true', Bool.not_eq_false, List.all_eq_true]
  tauto

/-- The parts of a decimal are read exactly as they are written. -/
theorem ofBody?_eq_some_iff :
    ofBody? negative body = some x ↔ x.negative = negative ∧ x.HasBody body := by
  unfold ofBody?
  constructor
  · intro h
    cases hsplit : Text.splitFirst? '.' body with
    | none =>
      rw [hsplit] at h
      obtain ⟨rfl, hdigits⟩ := ofDigits?_eq_some_iff.1 h
      exact ⟨rfl, .inl ⟨rfl, rfl⟩, hdigits⟩
    | some parts =>
      rw [hsplit] at h
      obtain ⟨rfl, hdigits⟩ := ofDigits?_eq_some_iff.1 h
      exact ⟨rfl, .inr (Text.splitFirst?_eq_some hsplit).1, hdigits⟩
  · obtain ⟨negative, whole, fraction⟩ := x
    rintro ⟨rfl, hparts, hdigits, hne⟩
    have hpoint : '.' ∉ whole := fun hmem =>
      absurd (hdigits '.' (List.mem_append_left _ hmem)) (by decide)
    rcases hparts with ⟨rfl, rfl⟩ | rfl
    · rw [Text.splitFirst?_eq_none_iff.2 hpoint]
      exact ofDigits?_eq_some_iff.2 ⟨rfl, hdigits, hne⟩
    · rw [Text.splitFirst?_append hpoint]
      exact ofDigits?_eq_some_iff.2 ⟨rfl, hdigits, hne⟩

/-- Behind the sign there are digits and points only. -/
theorem HasBody.isDigit_or_eq (h : x.HasBody body) {c : Char} (hc : c ∈ body) :
    c.isDigit ∨ c = '.' := by
  obtain ⟨⟨rfl, -⟩ | rfl, hdigits, -⟩ := h
  · exact .inl (hdigits c (List.mem_append_left _ hc))
  · rcases List.mem_append.1 hc with hc | hc
    · exact .inl (hdigits c (List.mem_append_left _ hc))
    · rcases List.mem_cons.1 hc with rfl | hc
      · exact .inr rfl
      · exact .inl (hdigits c (List.mem_append_right _ hc))

/-- A plain decimal is made of digits, a minus and a point. -/
theorem IsWritten.isDigit_or_eq (h : x.IsWritten s) {c : Char} (hc : c ∈ s) :
    c.isDigit ∨ c = '-' ∨ c = '.' := by
  obtain ⟨body, rfl, hbody⟩ := h
  rcases List.mem_append.1 hc with hc | hc
  · split at hc
    · exact .inr (.inl (List.mem_singleton.1 hc))
    · cases hc
  · exact (hbody.isDigit_or_eq hc).imp_right .inr

/-- **A plain decimal is read** as it is written, and nothing else is read. -/
theorem parse?_eq_some_iff : parse? s = some x ↔ x.IsWritten s := by
  constructor
  · intro h
    by_cases hhead : s.head? = some '-'
    · obtain ⟨body, rfl⟩ := List.head?_eq_some_iff.1 hhead
      obtain ⟨hnegative, hbody⟩ := ofBody?_eq_some_iff.1 (parse?_minus body ▸ h)
      exact ⟨body, by simp [hnegative], hbody⟩
    · rw [parse?_of_head?_ne hhead] at h
      obtain ⟨hnegative, hbody⟩ := ofBody?_eq_some_iff.1 h
      exact ⟨s, by simp [hnegative], hbody⟩
  · rintro ⟨body, rfl, hbody⟩
    have hread := ofBody?_eq_some_iff.2 ⟨rfl, hbody⟩
    cases hnegative : x.negative with
    | true =>
      rw [hnegative] at hread
      exact hread
    | false =>
      have hhead : body.head? ≠ some '-' := fun hhead => by
        rcases hbody.isDigit_or_eq (List.mem_of_mem_head? hhead) with h | h
        · exact absurd h (by decide)
        · exact absurd h (by decide)
      rw [hnegative] at hread
      exact (parse?_of_head?_ne hhead).trans hread

/-! ## Which number it is -/

/-- The size of a plain decimal. -/
def magnitude (x : Plain) : ℚ :=
  Text.ofDigits (x.whole ++ x.fraction) * 10 ^ (-(x.fraction.length : ℤ))

/-- **A plain decimal is too large** to be read from halfway between the greatest finite number and
`2 ^ 1024` on. -/
theorem float?_eq_none_iff : x.float? = none ↔ overflow ≤ x.magnitude :=
  Binary64.ofDecimal_eq_none_iff

/-- **A plain decimal reads as one** within a half of the steps next to one. -/
theorem float?_eq_one_iff :
    x.float? = some Binary64.one ↔
      x.negative = false ∧ 1 - 1 / 2 ^ 54 ≤ x.magnitude ∧ x.magnitude ≤ 1 + 1 / 2 ^ 53 := by
  rw [float?, Binary64.ofDecimal_eq_some_iff, Binary64.decimalValue, Binary64.roundsTo_one_iff]
  exact and_congr eq_comm Iff.rfl

end Plain
end Pagewright
