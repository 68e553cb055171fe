/-
# The shortest decimal of a number rounds to it

The decimals of one length lie on a grid, and of a grid the point nearest to the number is tried
first. It is at most half a grid away, and seventeen digits are enough for that to be inside the
interval around the number: its significand is below `2 ^ 53`, which is less than `10 ^ 16`, so
the grid is finer than the numbers are, and twice as fine where they lie closer below a power of
two (`roundsTo_of_close`). So one of the seventeen lengths has a decimal that rounds to the number,
and the first such decimal is the shortest (`shortest_roundsTo`).
-/

import Pagewright.Proofs.Binary64.Rounding

namespace Pagewright
namespace Binary64

variable {m p : ℕ} {e : ℤ} {x y : ℚ}

/-! ## The order of magnitude -/

/-- **A power of ten** that a positive number reaches. -/
theorem decimalValue_leadingExponent_le {n : ℕ} (hn : 0 < n) :
    decimalValue 1 (leadingExponent n unitsInOne) ≤ n := by
  have hone := unitsInOne_pos
  unfold leadingExponent
  split_ifs with hle
  · generalize hdigits : Nat.toDigits 10 (n / unitsInOne) = digits
    have hq : n / unitsInOne ≠ 0 := (Nat.div_pos hle hone).ne'
    have hlow := ten_pow_length_le hq
    rw [hdigits, Nat.le_div_iff_mul_le hone] at hlow
    have hpos : 0 < digits.length := hdigits ▸ Nat.length_toDigits_pos
    rw [show (digits.length : ℤ) - 1 = (digits.length - 1 : ℕ) by omega, decimalValue_one,
      zpow_natCast]
    exact_mod_cast hlow
  · dsimp only
    generalize hup : (unitsInOne + n - 1) / n = up
    have hceil : unitsInOne ≤ up * n := by
      have hdiv := Nat.div_add_mod (unitsInOne + n - 1) n
      have hmod := Nat.mod_lt (unitsInOne + n - 1) hn
      rw [hup, Nat.mul_comm] at hdiv
      omega
    have hlt := lt_ten_pow_length (up - 1)
    generalize (Nat.toDigits 10 (up - 1)).length = size at hlt ⊢
    have hreach : unitsInOne ≤ 10 ^ size * n :=
      hceil.trans (Nat.mul_le_mul_right n (by omega))
    have hten : (0 : ℚ) < 10 ^ size := by positivity
    rw [decimalValue_one, zero_sub, zpow_neg, zpow_natCast, inv_mul_le_iff₀ hten]
    exact_mod_cast hreach

/-! ## The point of a grid that is nearest -/

/-- **Half a grid:** the point of a grid that is tried first is no farther away. -/
theorem decimalValue_nearest (m p : ℕ) (e : ℤ) {near : ℕ}
    (hnear : nearest ((m * Nat.pow 10 (-e).toNat) <<< p) (Nat.pow 10 e.toNat <<< 1074) = near) :
    2 * decimalValue near e ≤ 2 * (m * 2 ^ p) + decimalValue 1 e ∧
      2 * (m * 2 ^ p) ≤ 2 * decimalValue near e + decimalValue 1 e := by
  have hone := unitsInOne_pos
  rw [shiftLeft_units, Nat.shiftLeft_eq, Nat.pow_eq, Nat.pow_eq] at hnear
  have hgrid : 0 < 10 ^ e.toNat * unitsInOne := by positivity
  obtain ⟨hlow, hhigh, -⟩ := nearest_spec (m * 10 ^ (-e).toNat * 2 ^ p) hgrid
  rw [hnear] at hlow hhigh
  have hscale : (0 : ℚ) < 10 ^ (-e).toNat := by positivity
  rw [decimalValue_eq_div, decimalValue_eq_div]
  have hleft : (2 * (((near * 10 ^ e.toNat * unitsInOne : ℕ) : ℚ) / (10 ^ (-e).toNat : ℕ)) : ℚ) =
      ((2 * (10 ^ e.toNat * unitsInOne * near) : ℕ) : ℚ) / 10 ^ (-e).toNat := by
    push_cast
    ring
  have hmid : (2 * (m * 2 ^ p) : ℚ) =
      ((2 * (m * 10 ^ (-e).toNat * 2 ^ p) : ℕ) : ℚ) / 10 ^ (-e).toNat := by
    push_cast
    field_simp
  have hstep : (((1 * 10 ^ e.toNat * unitsInOne : ℕ) : ℚ) / (10 ^ (-e).toNat : ℕ) : ℚ) =
      ((10 ^ e.toNat * unitsInOne : ℕ) : ℚ) / 10 ^ (-e).toNat := by
    push_cast
    ring
  rw [hleft, hmid, hstep, ← add_div, ← add_div, div_le_div_iff_of_pos_right hscale,
    div_le_div_iff_of_pos_right hscale]
  exact ⟨by exact_mod_cast hlow, by exact_mod_cast hhigh⟩

/-- **A grid of seventeen digits is fine enough:** what is half a grid away from a number rounds
to it. -/
theorem roundsTo_of_close (hm : m < 1 <<< 53) (hy : 0 < y) (hfine : 10 ^ 16 * y ≤ m * 2 ^ p)
    (hlow : 2 * (m * 2 ^ p) ≤ 2 * x + y) (hhigh : 2 * x ≤ 2 * (m * 2 ^ p) + y) :
    RoundsTo m p x := by
  have hunit : (0 : ℚ) < 2 ^ p := by positivity
  have hpos : 0 < m := by
    rcases Nat.eq_zero_or_pos m with rfl | h
    · rw [Nat.cast_zero, zero_mul] at hfine
      linarith
    · exact h
  have hm' : (m : ℚ) + 1 ≤ 2 ^ 53 := by exact_mod_cast hm
  have hbelow : (lowerEnd m p * 2 ^ p : ℚ) < 4 * x := by
    unfold lowerEnd
    split_ifs with hpower
    · -- the numbers below a power of two are closer
      have hpower : (m : ℚ) = 2 ^ 52 := by
        rw [hpower.1, Nat.one_shiftLeft, Nat.cast_pow, Nat.cast_ofNat]
      rw [Nat.cast_sub (by omega)]
      push_cast
      rw [hpower] at hfine hlow ⊢
      linarith
    · rw [Nat.cast_sub (by omega)]
      push_cast
      nlinarith
  have habove : 4 * x < (4 * m + 2) * 2 ^ p := by
    nlinarith
  unfold RoundsTo
  split
  · exact ⟨hbelow.le, habove.le⟩
  · exact ⟨hbelow, habove⟩

/-! ## The shortest decimal -/

/-- Of two candidates, the one that is taken rounds to the number. -/
theorem roundsTo_of_candidate {near far : ℕ} {d : Decimal}
    (h : (if inInterval m p near e then some ⟨near, e⟩
      else if inInterval m p far e then some ⟨far, e⟩ else none) = some d) :
    RoundsTo m p (decimalValue d.digits d.exponent) := by
  split_ifs at h with hnear hfar
  · obtain rfl := Option.some.inj h
    exact inInterval_iff.1 hnear
  · obtain rfl := Option.some.inj h
    exact inInterval_iff.1 hfar

/-- A decimal of a grid rounds to the number that it is found for. -/
theorem roundsTo_of_onGrid? {d : Decimal} (h : onGrid? m p e = some d) :
    RoundsTo m p (decimalValue d.digits d.exponent) := roundsTo_of_candidate h

/-- A grid whose nearest point rounds to a number has a decimal. -/
theorem isSome_onGrid? (h : RoundsTo m p (decimalValue (nearest ((m * Nat.pow 10 (-e).toNat) <<< p)
    (Nat.pow 10 e.toNat <<< 1074)) e)) : (onGrid? m p e).isSome := by
  unfold onGrid?
  dsimp only
  rw [if_pos (inInterval_iff.2 h)]
  rfl

/-- **The shortest decimal** of a number rounds to it. -/
theorem shortest_roundsTo {x : Binary64} (hx : x.significand ≠ 0) :
    RoundsTo x.significand x.exponent (decimalValue x.shortest.digits x.shortest.exponent) := by
  have hpositive : 0 < x.scaled := by
    rw [scaled, Nat.shiftLeft_eq]
    exact Nat.mul_pos (Nat.pos_of_ne_zero hx) (Nat.two_pow_pos _)
  have hlead := decimalValue_leadingExponent_le hpositive
  have hshortest : x.shortest = ((List.range 17).findSome? fun (i : ℕ) =>
      onGrid? x.significand x.exponent (leadingExponent x.scaled unitsInOne - (i : ℤ))).getD
        ⟨0, 0⟩ := by
    rw [shortest, unitsInOne]
  generalize leadingExponent x.scaled unitsInOne = e at hlead hshortest
  -- the grid of seventeen digits has a decimal
  have hfine : 10 ^ 16 * decimalValue 1 (e - 16) ≤ (x.significand * 2 ^ x.exponent : ℚ) := by
    have hplaces := decimalValue_mul_ten_pow 1 16 (e - 16)
    rw [decimalValue_eq_mul, one_mul, Nat.cast_pow, Nat.cast_ofNat, Nat.cast_ofNat,
      sub_add_cancel] at hplaces
    rw [scaled, Nat.shiftLeft_eq, Nat.cast_mul, Nat.cast_pow, Nat.cast_ofNat] at hlead
    rwa [hplaces]
  obtain ⟨hhigh, hlow⟩ := decimalValue_nearest x.significand x.exponent (e - 16) rfl
  have hclose := roundsTo_of_close x.canonical.1 (decimalValue_one_pos _) hfine hlow hhigh
  have hsome : ((List.range 17).findSome? fun (i : ℕ) =>
      onGrid? x.significand x.exponent (e - (i : ℤ))).isSome := by
    rw [List.findSome?_isSome_iff]
    exact ⟨16, by decide, isSome_onGrid? hclose⟩
  obtain ⟨d, hd⟩ := Option.isSome_iff_exists.1 hsome
  obtain ⟨i, -, hi⟩ := List.exists_of_findSome?_eq_some hd
  rw [hshortest, hd]
  exact roundsTo_of_onGrid? hi

end Binary64
end Pagewright
