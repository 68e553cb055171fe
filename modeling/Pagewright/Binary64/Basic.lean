/-
# Finite binary64 numbers

A finite binary64 number is a sign, a significand `m < 2 ^ 53` and an exponent
`p ≤ 2045`; its magnitude is `m * 2 ^ p / 2 ^ 1074`. The significand is at least
`2 ^ 52` unless `p = 0`, so every number but zero has one representation and
zero has two, `0.0` and `-0.0`.

Each operation is its exact result rounded to nearest, ties to the even
significand. The exact result is a quotient `a / d` in units of `2 ^ -1074`;
`round` is `none` where the rounded magnitude would reach `2 ^ 1024`.

| operation | exact result in units of `2 ^ -1074` |
| --- | --- |
| `ofRatio n d` | `n * 2 ^ 1074 / d` |
| `x.mul y` | `|x| * |y| / 2 ^ 1074` |
| `x.div y` | `|x| * 2 ^ 1074 / |y|` |
-/

namespace Pagewright

/-- A significand and an exponent that stand for a finite binary64 magnitude. -/
def Canonical64 (m p : Nat) : Prop := m < 1 <<< 53 ∧ (1 <<< 52 ≤ m ∨ p = 0) ∧ p ≤ 2045

instance (m p : Nat) : Decidable (Canonical64 m p) :=
  inferInstanceAs (Decidable (_ ∧ _ ∧ _))

/-- A finite binary64 number of magnitude `significand * 2 ^ exponent / 2 ^ 1074`. -/
structure Binary64 where
  negative : Bool
  significand : Nat
  exponent : Nat
  canonical : Canonical64 significand exponent
deriving DecidableEq

namespace Binary64

/-- Zero with a sign. -/
def zero (negative : Bool) : Binary64 := ⟨negative, 0, 0, by decide⟩

instance : Inhabited Binary64 := ⟨zero false⟩

/-- The magnitude in units of `2 ^ -1074`. -/
def scaled (x : Binary64) : Nat := x.significand <<< x.exponent

/-- Whether the number is `0.0` or `-0.0`. -/
def isZero (x : Binary64) : Bool := x.significand == 0

/-- The number with the other sign. -/
def neg (x : Binary64) : Binary64 := { x with negative := !x.negative }

/-- Equality of values: the two zeros are equal. -/
def same (x y : Binary64) : Bool := x == y || (x.isZero && y.isZero)

/-- The natural number nearest to `a / d`, the even one of two. -/
def nearest (a d : Nat) : Nat :=
  let q := a / d
  let r := a % d
  if 2 * r < d then q
  else if d < 2 * r then q + 1
  else if q % 2 = 0 then q else q + 1

/-- The number nearest to `a / d` in units of `2 ^ -1074`, if it is finite. -/
def round (negative : Bool) (a d : Nat) : Option Binary64 :=
  let q := a / d
  let p := if q < 1 <<< 53 then 0 else q.log2 - 52
  let m := nearest a (d <<< p)
  let (m, p) := if m < 1 <<< 53 then (m, p) else (1 <<< 52, p + 1)
  if h : Canonical64 m p then some ⟨negative, m, p, h⟩ else none

/-- The number nearest to `n / d`, if it is finite. -/
def ofRatio (negative : Bool) (n d : Nat) : Option Binary64 := round negative (n <<< 1074) d

/-- The number nearest to a natural number, if it is finite. -/
def ofNat (n : Nat) : Option Binary64 := ofRatio false n 1

/-- The product, if it is finite. -/
def mul (x y : Binary64) : Option Binary64 :=
  round (x.negative ^^ y.negative) (x.scaled * y.scaled) (1 <<< 1074)

/-- The quotient by a number that is not zero, if it is finite. -/
def div (x y : Binary64) : Option Binary64 :=
  round (x.negative ^^ y.negative) (x.scaled <<< 1074) y.scaled

/-- The number `1.0`. -/
def one : Binary64 := ⟨false, 1 <<< 52, 1022, by decide⟩

example : ofNat 1 = some one := by decide +kernel

/-- **A decimal read exactly:** the number nearest to `n * 10 ^ e`, if it is
finite. An exponent far outside the range decides at once. -/
def ofDecimal (negative : Bool) (n : Nat) (e : Int) : Option Binary64 :=
  let size := (Nat.toDigits 10 n).length
  if n = 0 then some (zero negative)
  else if 400 < e + size then none
  else if e + size < -400 then some (zero negative)
  else if 0 ≤ e then ofRatio negative (n * Nat.pow 10 e.toNat) 1
  else ofRatio negative n (Nat.pow 10 (-e).toNat)

end Binary64
end Pagewright
