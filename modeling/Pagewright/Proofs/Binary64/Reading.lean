/-
# Which number a decimal is read as

Every quotient lies in the interval of a significand and an exponent, if exponents of any size are
allowed, and rounding gives that number if it is finite (`round_spec`). So a decimal is read as the
number in whose interval it lies (`ofDecimal_eq_some_iff`), and it is not read from `overflow` on,
which is halfway between the greatest finite number and `2 ^ 1024` (`ofDecimal_eq_none_iff`). The
interval of one reaches half of a step down and half of a step up, and the step above it is twice
the one below (`roundsTo_one_iff`).
-/

import Pagewright.Proofs.Binary64.Rounding

namespace Pagewright
namespace Binary64

variable {m p a d n : ℕ} {e : ℤ} {negative : Bool}

/-! ## Rounding a quotient -/

/-- A quotient is rounded down at most to its whole part. -/
theorem div_le_nearest (a d : ℕ) : a / d ≤ nearest a d := by
  unfold nearest
  dsimp only
  split_ifs <;> omega

/-- **The exponent of a quotient:** its unit is the least in which it stays below `2 ^ 53`. -/
theorem exists_exponent (hd : 0 < d) :
    ∃ p, (if a / d < 1 <<< 53 then 0 else (a / d).log2 - 52) = p ∧
      (0 < p → 2 ^ 52 * (d * 2 ^ p) ≤ a) ∧ a < 2 ^ 53 * (d * 2 ^ p) := by
  refine ⟨_, rfl, ?_⟩
  have hone : 1 <<< 53 = 2 ^ 53 := rfl
  rw [hone]
  split
  · next h =>
    rw [Nat.div_lt_iff_lt_mul hd] at h
    exact ⟨fun h0 => absurd h0 (Nat.lt_irrefl 0), by simpa using h⟩
  · next h =>
    have hq : a / d ≠ 0 := by omega
    have hlog : 53 ≤ (a / d).log2 := (Nat.le_log2 hq).2 (Nat.le_of_not_lt h)
    have hlow : 2 ^ (a / d).log2 ≤ a / d := Nat.log2_self_le hq
    have hhigh : a / d < 2 ^ ((a / d).log2 + 1) := Nat.lt_log2_self
    obtain ⟨k, hk⟩ : ∃ k, (a / d).log2 = 52 + k := ⟨(a / d).log2 - 52, by omega⟩
    rw [hk] at hlow hhigh ⊢
    rw [Nat.le_div_iff_mul_le hd] at hlow
    rw [Nat.div_lt_iff_lt_mul hd] at hhigh
    rw [Nat.add_sub_cancel_left]
    constructor
    · intro _
      calc 2 ^ 52 * (d * 2 ^ k) = 2 ^ (52 + k) * d := by ring
        _ ≤ a := hlow
    · calc a < 2 ^ (52 + k + 1) * d := hhigh
        _ = 2 ^ 53 * (d * 2 ^ k) := by ring

/-- **Without a carry** a quotient lies in the interval of its rounded significand. -/
theorem roundsTo_nearest (hd : 0 < d) (hreach : 0 < p → 2 ^ 52 * (d * 2 ^ p) ≤ a) :
    RoundsTo (nearest a (d * 2 ^ p)) p (a / d) := by
  have hunit : 0 < d * 2 ^ p := Nat.mul_pos hd (Nat.two_pow_pos p)
  rw [roundsTo_div_iff hd]
  generalize d * 2 ^ p = unit at hunit hreach ⊢
  obtain ⟨hlow, hhigh, hodd⟩ := nearest_spec a hunit
  generalize nearest a unit = m at hlow hhigh hodd ⊢
  have hupper : (4 * m + 2) * unit = 2 * (2 * (unit * m) + unit) := by ring
  have hlower : (4 * m - 2) * unit = 4 * (unit * m) - 2 * unit := by
    rw [Nat.sub_mul]
    congr 1
    ring
  rw [hupper]
  unfold lowerEnd
  split_ifs with heven hpower hpower
  · obtain ⟨rfl, hp⟩ := hpower
    have hreach := hreach hp
    have hone : 1 <<< 52 = 2 ^ 52 := rfl
    rw [hone, Nat.sub_mul]
    omega
  · rw [hlower]
    omega
  · rw [hpower.1] at heven
    exact absurd rfl heven
  · have hpos : unit ≤ unit * m := Nat.le_mul_of_pos_right unit (by omega)
    rw [hlower]
    omega

/-- **With a carry** the quotient lies just below a power of two, in the interval of that power. -/
theorem roundsTo_carried (hd : 0 < d) (hhigh : a < 2 ^ 53 * (d * 2 ^ p))
    (hcarry : 2 ^ 53 ≤ nearest a (d * 2 ^ p)) : RoundsTo (2 ^ 52) (p + 1) (a / d) := by
  have hunit : 0 < d * 2 ^ p := Nat.mul_pos hd (Nat.two_pow_pos p)
  have hdouble : d * 2 ^ (p + 1) = 2 * (d * 2 ^ p) := by ring
  have hlow := (nearest_spec a hunit).1
  have hreach := Nat.mul_le_mul_left (d * 2 ^ p) hcarry
  rw [roundsTo_div_iff hd, if_pos (by decide), lowerEnd, if_pos ⟨rfl, Nat.succ_pos p⟩, hdouble]
  constructor <;> omega

/-- **Rounding a quotient:** it lies in the interval of a significand and an exponent of any size,
and the number with these is the result, if it is one. -/
theorem round_spec (negative : Bool) (hd : 0 < d) : ∃ m p, RoundsTo m p (a / d) ∧ m < 2 ^ 53 ∧
    (2 ^ 52 ≤ m ∨ p = 0) ∧
    round negative a d = if h : Canonical64 m p then some ⟨negative, m, p, h⟩ else none := by
  obtain ⟨p, hp, hreach, hhigh⟩ := exists_exponent (a := a) hd
  have hone : 1 <<< 53 = 2 ^ 53 := rfl
  unfold round
  dsimp only
  rw [hp, Nat.shiftLeft_eq, hone]
  split
  · next hlt =>
    refine ⟨_, p, roundsTo_nearest hd hreach, hlt, ?_, rfl⟩
    rcases Nat.eq_zero_or_pos p with hp | hp
    · exact .inr hp
    · refine .inl (le_trans ?_ (div_le_nearest a (d * 2 ^ p)))
      rw [Nat.le_div_iff_mul_le (Nat.mul_pos hd (Nat.two_pow_pos p))]
      exact hreach hp
  · next hcarry =>
    exact ⟨_, _, roundsTo_carried hd hhigh (Nat.le_of_not_lt hcarry), by decide, .inl le_rfl, rfl⟩

/-- **A quotient that is rounded to a number** lies in its interval. -/
theorem roundsTo_of_round {x : Binary64} (hd : 0 < d) (h : round negative a d = some x) :
    x.negative = negative ∧ RoundsTo x.significand x.exponent (a / d) := by
  obtain ⟨m, p, hx, -, -, hround⟩ := round_spec (a := a) negative hd
  rw [hround] at h
  split at h
  · obtain rfl := Option.some.inj h
    exact ⟨rfl, hx⟩
  · cases h

/-- The least real that no finite number is nearest to, in units of `2 ^ -1074`: it is halfway
between the greatest finite number and `2 ^ 1024`. -/
def overflowUnits : ℕ := (2 ^ 54 - 1) * 2 ^ 2044

/-- The overflow is halfway between the greatest number and the next power of two. -/
theorem cast_overflowUnits : (overflowUnits : ℚ) = (2 ^ 54 - 1) * 2 ^ 2044 := by
  rw [overflowUnits, Nat.cast_mul, Nat.cast_pow, Nat.cast_ofNat]
  congr 1
  norm_num

/-- The interval of an exponent that is too large lies above that real. -/
theorem RoundsTo.overflowUnits_le {x : ℚ} (hx : RoundsTo m p x) (hm : 2 ^ 52 ≤ m)
    (hp : 2046 ≤ p) : overflowUnits ≤ x := by
  have hsucc : (2 : ℚ) ^ 2045 = 2 ^ 2044 * 2 := pow_succ 2 2044
  have hsucc' : (2 : ℚ) ^ 2046 = 2 ^ 2045 * 2 := pow_succ 2 2045
  have hend : 2 ^ 54 - 1 ≤ lowerEnd m p := by
    have hone : 1 <<< 52 = 2 ^ 52 := rfl
    unfold lowerEnd
    split <;> omega
  have hend : ((2 ^ 54 - 1 : ℕ) : ℚ) ≤ lowerEnd m p := Nat.cast_le.2 hend
  have hpow : (2 : ℚ) ^ 2046 ≤ 2 ^ p := pow_le_pow_right₀ (by norm_num) hp
  have hbound : ((2 ^ 54 - 1 : ℕ) : ℚ) * 2 ^ 2046 ≤ lowerEnd m p * 2 ^ p := by gcongr
  have hlow := hx.lower_le
  rw [hsucc', hsucc] at hbound
  rw [cast_overflowUnits]
  generalize (2 : ℚ) ^ 2044 = half at hbound ⊢
  push_cast at hbound
  linarith

/-- The interval of an exponent of a finite number lies below that real. -/
theorem RoundsTo.lt_overflowUnits {x : ℚ} (hx : RoundsTo m p x) (hm : m < 2 ^ 53)
    (hp : p ≤ 2045) : x < overflowUnits := by
  have hsucc : (2 : ℚ) ^ 2045 = 2 ^ 2044 * 2 := pow_succ 2 2044
  have hpow : (2 : ℚ) ^ p ≤ 2 ^ 2045 := pow_le_pow_right₀ (by norm_num) hp
  have hunit : (0 : ℚ) < 2 ^ p := by positivity
  -- the greatest significand is odd, so the end of its interval does not belong to it
  have hlt : 4 * x < (2 ^ 55 - 2) * 2 ^ p := by
    rcases Nat.lt_or_ge m (2 ^ 53 - 1) with h | h
    · have hm : ((m + 1 : ℕ) : ℚ) ≤ (2 ^ 53 - 1 : ℕ) := Nat.cast_le.2 h
      have hend : (4 * m + 2 : ℚ) < 2 ^ 55 - 2 := by
        push_cast at hm
        linarith
      exact hx.le_upper.trans_lt (mul_lt_mul_of_pos_right hend hunit)
    · obtain rfl : m = 2 ^ 53 - 1 := by omega
      unfold RoundsTo at hx
      rw [if_neg (by decide)] at hx
      have hend := hx.2
      push_cast at hend
      linarith
  rw [hsucc] at hpow
  rw [cast_overflowUnits]
  generalize (2 : ℚ) ^ 2044 = half at hpow ⊢
  linarith

/-- **Where the finite numbers end:** an interval lies below that real exactly if its exponent is
one of a finite number. -/
theorem RoundsTo.lt_overflowUnits_iff {x : ℚ} (hx : RoundsTo m p x) (hm : m < 2 ^ 53)
    (hnormal : 2 ^ 52 ≤ m ∨ p = 0) : x < overflowUnits ↔ p ≤ 2045 := by
  refine ⟨fun hlt => ?_, hx.lt_overflowUnits hm⟩
  by_contra hp
  have hm : 2 ^ 52 ≤ m := hnormal.resolve_right (by omega)
  exact absurd hlt (not_lt.2 (hx.overflowUnits_le hm (by omega)))

/-- **A quotient is too large** exactly from there on. -/
theorem round_eq_none_iff (hd : 0 < d) :
    round negative a d = none ↔ overflowUnits ≤ (a / d : ℚ) := by
  obtain ⟨m, p, hx, hm, hnormal, hround⟩ := round_spec (a := a) negative hd
  have hcanonical : Canonical64 m p ↔ p ≤ 2045 :=
    ⟨fun h => h.2.2, fun h => ⟨hm, hnormal, h⟩⟩
  rw [hround, ← not_lt, hx.lt_overflowUnits_iff hm hnormal, ← hcanonical]
  split
  · next h => simp [h]
  · next h => simp [h]

/-! ## Reading a decimal -/

/-- A decimal is not negative. -/
theorem decimalValue_nonneg (n : ℕ) (e : ℤ) : 0 ≤ decimalValue n e := by
  unfold decimalValue
  positivity

/-- **A decimal is read** as the number in whose interval it lies, and as no other. -/
theorem ofDecimal_eq_some_iff {x : Binary64} :
    ofDecimal negative n e = some x ↔
      x.negative = negative ∧ RoundsTo x.significand x.exponent (decimalValue n e) := by
  constructor
  · intro h
    rcases ofDecimal_cases negative n e with ⟨hzero, hsmall⟩ | ⟨hnone, -⟩ | ⟨a, d, hd, hround, hx⟩
    · rw [hzero] at h
      obtain rfl := Option.some.inj h
      have hnonneg := decimalValue_nonneg n e
      have hquarter := decimalValue_lt_quarter
      refine ⟨rfl, ?_⟩
      simp only [RoundsTo, zero, lowerEnd]
      norm_num
      constructor <;> linarith
    · rw [hnone] at h
      cases h
    · rw [hround] at h
      rw [hx]
      exact roundsTo_of_round hd h
  · rintro ⟨rfl, hx⟩
    exact ofDecimal_of_roundsTo x hx

/-- The least real that no finite number is nearest to: halfway between the greatest finite number
and `2 ^ 1024`. -/
def overflow : ℚ := 2 ^ 1024 - 2 ^ 970

/-- There are `2 ^ 1074` units in one. -/
theorem cast_unitsInOne : (unitsInOne : ℚ) = 2 ^ 1074 := by
  simp only [unitsInOne, Nat.one_shiftLeft, Nat.cast_pow, Nat.cast_ofNat]

/-- The overflow in units is the overflow. -/
theorem cast_overflowUnits_eq : (overflowUnits : ℚ) = overflow * unitsInOne := by
  have htop : 54 + 2044 = 1024 + 1074 := rfl
  have hstep : 2044 = 970 + 1074 := rfl
  rw [cast_overflowUnits, overflow, cast_unitsInOne, sub_mul, sub_mul, one_mul, ← pow_add,
    ← pow_add, htop, hstep, ← pow_add]

/-- The overflow is at least one unit. -/
theorem one_le_overflowUnits : (1 : ℚ) ≤ overflowUnits := by
  have hbound : 1 ≤ overflowUnits := by decide +kernel
  exact_mod_cast hbound

/-- The overflow is far below the longest decimals. -/
theorem overflowUnits_le : overflowUnits ≤ decimalValue 1 400 := by
  have hbound : overflowUnits ≤ 10 ^ 400 * unitsInOne := by decide +kernel
  rw [decimalValue_one]
  exact_mod_cast hbound

/-- **A decimal is too large** exactly from there on. -/
theorem ofDecimal_eq_none_iff : ofDecimal negative n e = none ↔ overflow ≤ n * 10 ^ e := by
  have hunits : (0 : ℚ) < unitsInOne := Nat.cast_pos.2 unitsInOne_pos
  rw [← mul_le_mul_iff_of_pos_right hunits, ← cast_overflowUnits_eq, ← decimalValue]
  rcases ofDecimal_cases negative n e with
    ⟨hzero, hsmall⟩ | ⟨hnone, hlarge⟩ | ⟨a, d, hd, hround, hx⟩
  · have hlt : decimalValue n e < overflowUnits := by
      linarith [one_le_overflowUnits, decimalValue_lt_quarter]
    exact iff_of_false (by simp [hzero]) (not_le.2 hlt)
  · exact iff_of_true hnone (overflowUnits_le.trans hlarge)
  · rw [hround, hx]
    exact round_eq_none_iff hd

/-- **What rounds to one:** the reals from a half of the step below it to a half of the step above
it. -/
theorem roundsTo_one_iff {x : ℚ} :
    RoundsTo one.significand one.exponent (x * unitsInOne) ↔
      1 - 1 / 2 ^ 54 ≤ x ∧ x ≤ 1 + 1 / 2 ^ 53 := by
  have hsplit : (2 : ℚ) ^ 1074 = 2 ^ 1022 * 2 ^ 52 := pow_add 2 1022 52
  have hunit : (0 : ℚ) < 2 ^ 1022 := by positivity
  have hend : ((lowerEnd one.significand one.exponent : ℕ) : ℚ) = 2 ^ 54 - 1 := by
    have hnat : lowerEnd one.significand one.exponent = 2 ^ 54 - 1 := by decide
    rw [hnat]
    norm_num
  have hsignificand : (one.significand : ℚ) = 2 ^ 52 := by
    have hnat : one.significand = 2 ^ 52 := by decide
    rw [hnat]
    norm_num
  rw [RoundsTo, if_pos (by decide), hend, hsignificand, cast_unitsInOne, hsplit]
  have hexponent : one.exponent = 1022 := rfl
  rw [hexponent]
  generalize (2 : ℚ) ^ 1022 = unit at hunit ⊢
  have hvalue : 4 * (x * (unit * 2 ^ 52)) = (x * 2 ^ 54) * unit := by ring
  rw [hvalue, mul_le_mul_iff_of_pos_right hunit, mul_le_mul_iff_of_pos_right hunit]
  constructor
  · rintro ⟨hlow, hhigh⟩
    constructor <;> linarith
  · rintro ⟨hlow, hhigh⟩
    constructor <;> linarith

end Binary64
end Pagewright
