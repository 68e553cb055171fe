/-
# Which reals round to a number

The numbers next to one of significand `m` and exponent `p` are `2 ^ p` away, in units of
`2 ^ -1074`, but for the one below a power of two, which is half as far. So the reals that are
nearest to it form an interval (`RoundsTo`), whose ends go to the even significand:

| number | from | to |
| --- | --- | --- |
| a power of two above the least exponent | `(m - 1/4) * 2 ^ p` | `(m + 1/2) * 2 ^ p` |
| any other | `(m - 1/2) * 2 ^ p` | `(m + 1/2) * 2 ^ p` |

Rounding a quotient gives the number in whose interval it lies (`round_of_roundsTo`). Below a power
of two the quotient is rounded with the exponent `p - 1`, and the significand `2 ^ 53` that comes
out is carried. A decimal is read as a quotient, or decided by its length alone when it lies far
outside the range, which no real does that rounds to a number (`ofDecimal_of_roundsTo`).
-/

import Pagewright.Binary64.Decimal
import Mathlib.Algebra.Order.Field.Power
import Mathlib.Data.Rat.Cast.Order
import Mathlib.Tactic.FieldSimp
import Mathlib.Tactic.GCongr
import Mathlib.Tactic.Linarith
import Mathlib.Tactic.NormNum
import Mathlib.Tactic.Positivity
import Mathlib.Tactic.Ring

namespace Pagewright
namespace Binary64

/-! ## The nearest natural number -/

/-- **The nearest natural number** is at most a half away, and less than a half if it is odd. -/
theorem nearest_spec (a : ℕ) {d : ℕ} (hd : 0 < d) :
    2 * (d * nearest a d) ≤ 2 * a + d ∧ 2 * a ≤ 2 * (d * nearest a d) + d ∧
      (nearest a d % 2 = 1 →
        2 * (d * nearest a d) < 2 * a + d ∧ 2 * a < 2 * (d * nearest a d) + d) := by
  have hdiv := Nat.div_add_mod a d
  have hmod := Nat.mod_lt a hd
  have hsucc : d * (a / d + 1) = d * (a / d) + d := Nat.mul_succ ..
  unfold nearest
  dsimp only
  split_ifs <;> omega

/-- Of two natural numbers that are at most a half away from a quotient, the greater one is next to
the smaller one, and the quotient is halfway between them. -/
theorem halfway_of_lt {a d m n : ℕ} (hd : 0 < d) (h : m < n) (hlow : 2 * a ≤ 2 * (d * m) + d)
    (hhigh : 2 * (d * n) ≤ 2 * a + d) : n = m + 1 ∧ 2 * a = 2 * (d * m) + d := by
  have hmul : d * (m + 1) ≤ d * n := Nat.mul_le_mul_left d h
  have hsucc : d * (m + 1) = d * m + d := Nat.mul_succ ..
  exact ⟨Nat.eq_of_mul_eq_mul_left hd (by omega), by omega⟩

/-- **A natural number is nearest** to a quotient that is at most a half away, and less than a half
if it is odd. -/
theorem nearest_eq {a d m : ℕ} (hd : 0 < d) (hlow : 2 * (d * m) ≤ 2 * a + d)
    (hhigh : 2 * a ≤ 2 * (d * m) + d)
    (hodd : m % 2 = 1 → 2 * (d * m) < 2 * a + d ∧ 2 * a < 2 * (d * m) + d) :
    nearest a d = m := by
  obtain ⟨hlow', hhigh', hodd'⟩ := nearest_spec a hd
  generalize nearest a d = n at hlow' hhigh' hodd' ⊢
  -- halfway between two neighbours, one of them is odd
  rcases Nat.lt_trichotomy n m with h | h | h
  · obtain ⟨rfl, hhalf⟩ := halfway_of_lt hd h hhigh' hlow
    rw [Nat.mul_succ] at hodd
    omega
  · exact h
  · obtain ⟨rfl, hhalf⟩ := halfway_of_lt hd h hhigh hlow'
    rw [Nat.mul_succ] at hodd'
    omega

/-! ## Intervals -/

/-- The lower end of the interval around a number, in quarters of `2 ^ p`. -/
def lowerEnd (m p : ℕ) : ℕ := if m = 1 <<< 52 ∧ 0 < p then 4 * m - 1 else 4 * m - 2

/-- The reals that round to the number of significand `m` and exponent `p`, in units of
`2 ^ -1074`. -/
def RoundsTo (m p : ℕ) (x : ℚ) : Prop :=
  if m % 2 = 0 then lowerEnd m p * 2 ^ p ≤ 4 * x ∧ 4 * x ≤ (4 * m + 2) * 2 ^ p
  else lowerEnd m p * 2 ^ p < 4 * x ∧ 4 * x < (4 * m + 2) * 2 ^ p

variable {m p a d : ℕ} {x : ℚ}

/-- What rounds to a number is not below its interval. -/
theorem RoundsTo.lower_le (h : RoundsTo m p x) : lowerEnd m p * 2 ^ p ≤ 4 * x := by
  unfold RoundsTo at h
  split at h
  · exact h.1
  · exact h.1.le

/-- What rounds to a number is not above its interval. -/
theorem RoundsTo.le_upper (h : RoundsTo m p x) : 4 * x ≤ (4 * m + 2) * 2 ^ p := by
  unfold RoundsTo at h
  split at h
  · exact h.2
  · exact h.2.le

/-- **A quotient in an interval,** without fractions. -/
theorem roundsTo_div_iff (hd : 0 < d) :
    RoundsTo m p (a / d : ℚ) ↔
      if m % 2 = 0 then lowerEnd m p * (d * 2 ^ p) ≤ 4 * a ∧ 4 * a ≤ (4 * m + 2) * (d * 2 ^ p)
      else lowerEnd m p * (d * 2 ^ p) < 4 * a ∧ 4 * a < (4 * m + 2) * (d * 2 ^ p) := by
  have hd' : (0 : ℚ) < d := by exact_mod_cast hd
  have hleft (k : ℕ) : (k * 2 ^ p : ℚ) = (k * (d * 2 ^ p) : ℕ) / d := by
    push_cast
    field_simp
  have hright : (4 * (a / d) : ℚ) = (4 * a : ℕ) / d := by
    push_cast
    ring
  have hupper : (4 * m + 2 : ℚ) = (4 * m + 2 : ℕ) := by push_cast; rfl
  unfold RoundsTo
  rw [hright, hupper, hleft, hleft, div_le_div_iff_of_pos_right hd',
    div_le_div_iff_of_pos_right hd', div_lt_div_iff_of_pos_right hd',
    div_lt_div_iff_of_pos_right hd', Nat.cast_le, Nat.cast_le, Nat.cast_lt, Nat.cast_lt]

/-! ## Rounding a quotient -/

/-- **The exponent of a quotient** that reaches `2 ^ 52` of its unit, but not `2 ^ 53`. -/
theorem exponent_eq (hd : 0 < d) (hlow : 0 < p → 2 ^ 52 * (d * 2 ^ p) ≤ a)
    (hhigh : a < 2 ^ 53 * (d * 2 ^ p)) :
    (if a / d < 1 <<< 53 then 0 else (a / d).log2 - 52) = p := by
  have hone : 1 <<< 53 = 2 ^ 53 := rfl
  have hlt : a / d < 2 ^ (53 + p) := by
    rw [Nat.div_lt_iff_lt_mul hd, Nat.pow_add, Nat.mul_assoc, Nat.mul_comm (2 ^ p)]
    exact hhigh
  rw [hone]
  rcases Nat.eq_zero_or_pos p with rfl | hp
  · rw [if_pos hlt]
  · have hle : 2 ^ (52 + p) ≤ a / d := by
      rw [Nat.le_div_iff_mul_le hd, Nat.pow_add, Nat.mul_assoc, Nat.mul_comm (2 ^ p)]
      exact hlow hp
    have hpow : 2 ^ 53 ≤ 2 ^ (52 + p) := Nat.pow_le_pow_right (by decide) (by omega)
    have hlog : (a / d).log2 = 52 + p := by
      rw [Nat.log2_eq_iff (by omega)]
      exact ⟨hle, by rwa [show 52 + p + 1 = 53 + p by omega]⟩
    rw [if_neg (by omega), hlog, Nat.add_sub_cancel_left]

/-- The interval of a number begins at most half a step below it. -/
theorem le_lowerEnd (m p : ℕ) : 4 * m ≤ lowerEnd m p + 2 := by
  unfold lowerEnd
  split <;> omega

/-- The ends of an interval, for a quotient. -/
theorem RoundsTo.div_bounds (hd : 0 < d) (hx : RoundsTo m p (a / d : ℚ)) :
    lowerEnd m p * (d * 2 ^ p) ≤ 4 * a ∧ 4 * a ≤ (4 * m + 2) * (d * 2 ^ p) := by
  rw [roundsTo_div_iff hd] at hx
  split at hx
  · exact hx
  · exact ⟨hx.1.le, hx.2.le⟩

/-- **The significand of a quotient** in an interval, in the unit of the interval. -/
theorem RoundsTo.nearest_eq (hd : 0 < d) (hx : RoundsTo m p (a / d : ℚ)) :
    nearest a (d <<< p) = m := by
  obtain ⟨hlow, hhigh⟩ := hx.div_bounds hd
  have hend := Nat.mul_le_mul_right (d * 2 ^ p) (le_lowerEnd m p)
  rw [roundsTo_div_iff hd] at hx
  rw [Nat.shiftLeft_eq]
  refine Binary64.nearest_eq (Nat.mul_pos hd (Nat.two_pow_pos p)) ?_ ?_ fun hodd => ?_
  · linarith
  · linarith
  · rw [if_neg (by omega)] at hx
    constructor
    · linarith [hx.1]
    · linarith [hx.2]

/-- **Below a power of two** the unit is half as large, and the significand is carried. -/
theorem RoundsTo.nearest_below_power (hd : 0 < d) (hx : RoundsTo (2 ^ 52) (p + 1) (a / d : ℚ))
    (hlt : a < 2 ^ 52 * (d * 2 ^ (p + 1))) :
    nearest a (d <<< p) = 2 ^ 53 ∧ 2 ^ 52 * (d * 2 ^ p) ≤ a ∧ a < 2 ^ 53 * (d * 2 ^ p) := by
  have hunit : 0 < d * 2 ^ p := Nat.mul_pos hd (Nat.two_pow_pos p)
  have hdouble : d * 2 ^ (p + 1) = 2 * (d * 2 ^ p) := by ring
  have hsharp : 4 * 2 ^ 52 ≤ lowerEnd (2 ^ 52) (p + 1) + 1 := by
    unfold lowerEnd
    rw [if_pos ⟨rfl, Nat.succ_pos p⟩]
    omega
  have hsharp := Nat.mul_le_mul_right (d * 2 ^ (p + 1)) hsharp
  have hlow := (hx.div_bounds hd).1
  rw [hdouble] at hlt hlow hsharp
  refine ⟨?_, by linarith, by linarith⟩
  rw [Nat.shiftLeft_eq]
  refine Binary64.nearest_eq hunit ?_ ?_ fun hodd => absurd hodd (by decide)
  · linarith
  · linarith

/-- **A quotient is rounded** to the number in whose interval it lies. -/
theorem round_of_roundsTo (negative : Bool) (h : Canonical64 m p) (hd : 0 < d)
    (hx : RoundsTo m p (a / d : ℚ)) : round negative a d = some ⟨negative, m, p, h⟩ := by
  obtain ⟨hm, hnormal, -⟩ := id h
  have h53 : 1 <<< 53 = 2 ^ 53 := rfl
  obtain ⟨hlow, hhigh⟩ := hx.div_bounds hd
  have hend := Nat.mul_le_mul_right (d * 2 ^ p) (le_lowerEnd m p)
  have hbelow := Nat.mul_le_mul_right (d * 2 ^ p) (show m + 1 ≤ 2 ^ 53 by omega)
  have hunit : 0 < d * 2 ^ p := Nat.mul_pos hd (Nat.two_pow_pos p)
  unfold round
  dsimp only
  by_cases hreach : 0 < p → 2 ^ 52 * (d * 2 ^ p) ≤ a
  · rw [exponent_eq hd hreach (by linarith), hx.nearest_eq hd, if_pos hm]
    exact dif_pos h
  · obtain ⟨hpos, hlt⟩ := Classical.not_imp.1 hreach
    have hlt := Nat.not_le.1 hlt
    -- only a power of two has quotients below its significand
    obtain rfl : m = 2 ^ 52 := by
      by_contra hne
      have hgt := Nat.mul_le_mul_right (d * 2 ^ p) (show 2 ^ 52 + 1 ≤ m by omega)
      linarith
    obtain ⟨p, rfl⟩ : ∃ p', p = p' + 1 := ⟨p - 1, by omega⟩
    obtain ⟨hnearest, hreach, hhigh⟩ := hx.nearest_below_power hd hlt
    rw [exponent_eq hd (fun _ => hreach) hhigh, hnearest, if_neg (by decide)]
    exact dif_pos h

/-! ## Reading a decimal -/

/-- How many units are one. -/
@[irreducible] def unitsInOne : ℕ := 1 <<< 1074

theorem shiftLeft_eq_mul (n k : ℕ) : n <<< k = n * 1 <<< k := by
  rw [Nat.shiftLeft_eq, Nat.one_shiftLeft]

theorem shiftLeft_units (n : ℕ) : n <<< 1074 = n * unitsInOne := by
  rw [shiftLeft_eq_mul, unitsInOne]

theorem unitsInOne_pos : 0 < unitsInOne := by decide +kernel

/-- A decimal in units of `2 ^ -1074`. -/
def decimalValue (n : ℕ) (e : ℤ) : ℚ := n * 10 ^ e * unitsInOne

/-- A decimal as the quotient of natural numbers. -/
theorem decimalValue_eq_div (n : ℕ) (e : ℤ) :
    decimalValue n e = ((n * 10 ^ e.toNat * unitsInOne : ℕ) : ℚ) / (10 ^ (-e).toNat : ℕ) := by
  have hten : (10 : ℚ) ^ e = 10 ^ e.toNat / 10 ^ (-e).toNat := by
    rw [← zpow_natCast, ← zpow_natCast, ← zpow_sub₀ (by norm_num)]
    congr 1
    omega
  rw [decimalValue, hten]
  push_cast
  ring

/-- A power of ten in units is a power of ten of the units in one. -/
theorem decimalValue_one (e : ℤ) : decimalValue 1 e = 10 ^ e * unitsInOne := by
  rw [decimalValue, Nat.cast_one, one_mul]

/-- Powers of ten are positive. -/
theorem decimalValue_one_pos (e : ℤ) : 0 < decimalValue 1 e := by
  have hunits : (0 : ℚ) < unitsInOne := Nat.cast_pos.2 unitsInOne_pos
  rw [decimalValue_one]
  positivity

/-- A decimal counts its last place. -/
theorem decimalValue_eq_mul (n : ℕ) (e : ℤ) : decimalValue n e = n * decimalValue 1 e := by
  rw [decimalValue_one, decimalValue, mul_assoc]

/-- A decimal grows with its digits. -/
theorem decimalValue_le_decimalValue {k n : ℕ} (h : k ≤ n) (e : ℤ) :
    decimalValue k e ≤ decimalValue n e := by
  unfold decimalValue
  gcongr

/-- Zeros behind the digits of a decimal count into its exponent. -/
theorem decimalValue_mul_ten_pow (n z : ℕ) (e : ℤ) :
    decimalValue (n * 10 ^ z) e = decimalValue n (e + z) := by
  rw [decimalValue, decimalValue, zpow_add₀ (by norm_num), zpow_natCast]
  push_cast
  ring

/-- **The check of an interval** decides whether a decimal rounds to a number. -/
theorem inInterval_iff {k : ℕ} {e : ℤ} :
    inInterval m p k e = true ↔ RoundsTo m p (decimalValue k e) := by
  have hvalue : (4 * k * Nat.pow 10 e.toNat) <<< 1074 = 4 * (k * 10 ^ e.toNat * unitsInOne) := by
    rw [shiftLeft_units, Nat.pow_eq]
    ring
  have hunit : Nat.pow 10 (-e).toNat <<< p = 10 ^ (-e).toNat * 2 ^ p := by
    rw [Nat.shiftLeft_eq, Nat.pow_eq]
  rw [decimalValue_eq_div, roundsTo_div_iff (by positivity)]
  unfold inInterval
  dsimp only
  rw [hvalue, hunit, ← lowerEnd]
  split <;> simp

/-! ### Decimals outside the range -/

/-- The reals of an interval are below `10 ^ 400`. -/
theorem RoundsTo.lt_of_canonical (h : Canonical64 m p) (hx : RoundsTo m p x) :
    x < decimalValue 1 400 := by
  obtain ⟨hm, -, hp⟩ := h
  have hm : m + 1 ≤ 2 ^ 53 := hm
  have hbound : (m + 1) * 2 ^ p ≤ 10 ^ 400 * unitsInOne := calc
    (m + 1) * 2 ^ p ≤ 2 ^ 53 * 2 ^ 2045 :=
      Nat.mul_le_mul hm (Nat.pow_le_pow_right (by decide) hp)
    _ ≤ 10 ^ 400 * unitsInOne := by decide +kernel
  have hbound : ((m + 1) * 2 ^ p : ℚ) ≤ decimalValue 1 400 := by
    rw [decimalValue_one]
    exact_mod_cast hbound
  have hunit : (0 : ℚ) < 2 ^ p := by positivity
  linarith [hx.le_upper]

/-- A quarter of a unit is above `10 ^ -401`. -/
theorem decimalValue_lt_quarter : 4 * decimalValue 1 (-401) < 1 := by
  have hrange : 4 * unitsInOne < 10 ^ 401 := by decide +kernel
  have hten : (0 : ℚ) < 10 ^ (401 : ℤ) := by positivity
  rw [decimalValue_one, zpow_neg, mul_left_comm, inv_mul_lt_iff₀ hten, mul_one]
  exact_mod_cast hrange

/-- **A real below `10 ^ -400`** rounds to nothing but zero. -/
theorem RoundsTo.eq_zero_of_lt (hx : RoundsTo m p x) (hsmall : x ≤ decimalValue 1 (-401)) :
    m = 0 := by
  have hlt := decimalValue_lt_quarter
  by_contra hne
  have hend : 1 ≤ lowerEnd m p * 2 ^ p := Nat.mul_pos (by have := le_lowerEnd m p; omega)
    (Nat.two_pow_pos p)
  have hend : (1 : ℚ) ≤ lowerEnd m p * 2 ^ p := by exact_mod_cast hend
  linarith [hx.lower_le]

/-- A greater exponent gives a greater power of ten. -/
theorem decimalValue_one_le_decimalValue_one {e f : ℤ} (h : e ≤ f) :
    decimalValue 1 e ≤ decimalValue 1 f := by
  rw [decimalValue_one, decimalValue_one]
  gcongr
  norm_num

/-- A number is below the power of ten with its number of digits. -/
theorem lt_ten_pow_length (n : ℕ) : n < 10 ^ (Nat.toDigits 10 n).length :=
  (Nat.length_toDigits_le_iff (by decide) Nat.length_toDigits_pos).1 (Nat.le_refl _)

/-- A number reaches the power of ten with one digit less. -/
theorem ten_pow_length_le {n : ℕ} (hn : n ≠ 0) : 10 ^ ((Nat.toDigits 10 n).length - 1) ≤ n := by
  by_contra hlt
  have hlt := Nat.not_le.1 hlt
  rcases Nat.eq_zero_or_pos ((Nat.toDigits 10 n).length - 1) with h | h
  · rw [h] at hlt
    exact hn (Nat.lt_one_iff.1 hlt)
  · have hshort := (Nat.length_toDigits_le_iff (by decide) h).2 hlt
    omega

/-- **A decimal by its length:** it lies between two powers of ten. -/
theorem decimalValue_bounds {n : ℕ} (hn : n ≠ 0) (e : ℤ) :
    decimalValue 1 (e + ((Nat.toDigits 10 n).length - 1 : ℕ)) ≤ decimalValue n e ∧
      decimalValue n e ≤ decimalValue 1 (e + (Nat.toDigits 10 n).length) := by
  constructor
  · rw [← decimalValue_mul_ten_pow, one_mul]
    exact decimalValue_le_decimalValue (ten_pow_length_le hn) e
  · rw [← decimalValue_mul_ten_pow, one_mul]
    exact decimalValue_le_decimalValue (lt_ten_pow_length n).le e

/-- A number without a significand is a zero. -/
theorem eq_zero_of_significand {x : Binary64} (h : x.significand = 0) : zero x.negative = x := by
  obtain ⟨negative, m, p, hm, hnormal, hp⟩ := x
  obtain rfl : m = 0 := h
  obtain rfl : p = 0 := hnormal.resolve_left (by decide)
  rfl

/-- **The three ways to read a decimal:** as zero, as too large by its length alone, or as a
quotient. -/
theorem ofDecimal_cases (negative : Bool) (n : ℕ) (e : ℤ) :
    (ofDecimal negative n e = some (zero negative) ∧ decimalValue n e ≤ decimalValue 1 (-401)) ∨
      (ofDecimal negative n e = none ∧ decimalValue 1 400 ≤ decimalValue n e) ∨
      ∃ a d : ℕ, 0 < d ∧ ofDecimal negative n e = round negative a d ∧
        decimalValue n e = (a / d : ℚ) := by
  have hvalue := decimalValue_eq_div n e
  have hratio (a d : ℕ) : ofRatio negative a d = round negative (a * unitsInOne) d := by
    rw [ofRatio, shiftLeft_units]
  unfold ofDecimal
  dsimp only
  split_ifs with hn habove hbelow hpositive
  · refine .inl ⟨rfl, ?_⟩
    rw [hn, decimalValue, Nat.cast_zero, zero_mul, zero_mul]
    exact (decimalValue_one_pos _).le
  · have habove : 400 ≤ e + ((Nat.toDigits 10 n).length - 1 : ℕ) := by omega
    exact .inr (.inl ⟨rfl, (decimalValue_one_le_decimalValue_one habove).trans
      (decimalValue_bounds hn e).1⟩)
  · have hbelow : e + (Nat.toDigits 10 n).length ≤ -401 := by omega
    exact .inl ⟨rfl, (decimalValue_bounds hn e).2.trans
      (decimalValue_one_le_decimalValue_one hbelow)⟩
  · refine .inr (.inr ⟨_, 1, Nat.one_pos, hratio _ _, ?_⟩)
    rw [hvalue, show (-e).toNat = 0 by omega, Nat.pow_eq, pow_zero]
  · refine .inr (.inr ⟨_, 10 ^ (-e).toNat, Nat.pow_pos (by decide), hratio _ _, ?_⟩)
    rw [hvalue, show e.toNat = 0 by omega, pow_zero, mul_one]

/-- **A decimal is read** as the number in whose interval it lies. -/
theorem ofDecimal_of_roundsTo (x : Binary64) {n : ℕ} {e : ℤ}
    (hx : RoundsTo x.significand x.exponent (decimalValue n e)) :
    ofDecimal x.negative n e = some x := by
  rcases ofDecimal_cases x.negative n e with ⟨hzero, hsmall⟩ | ⟨-, hlarge⟩ | ⟨a, d, hd, hround, hq⟩
  · rw [hzero, eq_zero_of_significand (hx.eq_zero_of_lt hsmall)]
  · exact absurd hlarge (hx.lt_of_canonical x.canonical).not_ge
  · rw [hq] at hx
    rw [hround]
    exact round_of_roundsTo x.negative x.canonical hd hx

end Binary64
end Pagewright
