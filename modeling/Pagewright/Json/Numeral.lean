/-
# Reading JSON numbers

A numeral without fraction and exponent is an integer when it fits in 64 bits
(`0` to `2 ^ 64 - 1`, or `-2 ^ 63` to `-1`); `-0` is the float `-0.0`. Every
other numeral is a float, read in two steps that each round:

* the *significand* gathers digits from the left while it stays below `2 ^ 64`;
  of the digits left over, those before the point count into the exponent and
  those after it are ignored;
* the significand, as a float, is multiplied or divided by the power of ten of
  the exponent; a quotient by more than `10 ^ 308` takes several divisions.

So a numeral of many digits may differ from the nearest float in its last bit.
A float that is not finite is out of range.
-/

import Pagewright.Json.Basic
import Pagewright.Text.Digit

namespace Pagewright
namespace Json

/-- The lexical parts of a numeral: digits before the point, digits after it,
and the sign and digits of an exponent. -/
structure Numeral where
  negative : Bool
  whole : List Char
  fraction : Option (List Char)
  exponent : Option (Bool × List Char)
deriving DecidableEq

/-- Appends digits while the number stays below `2 ^ 64`; also how many were taken. -/
def gather (n : Nat) : List Char → Nat × Nat
  | [] => (n, 0)
  | d :: ds =>
    let next := 10 * n + Text.digitValue d
    if UInt64.size ≤ next then (n, 0)
    else
      let (m, taken) := gather next ds
      (m, taken + 1)

/-- Multiplies or divides by a power of ten, in steps of at most `10 ^ 308`. -/
def scaleBy (x : Binary64) (e : Int) : Nat → Option Binary64
  | 0 => some x
  | steps + 1 =>
    if e.natAbs ≤ 308 then
      (Binary64.ofNat (Nat.pow 10 e.natAbs)).bind fun power =>
        if 0 ≤ e then x.mul power else x.div power
    else if x.isZero then some x
    else if 0 ≤ e then none
    else
      (Binary64.ofNat (Nat.pow 10 308)).bind fun power =>
        (x.div power).bind fun y => scaleBy y (e + 308) steps

/-- The greatest exponent that is read as written. -/
def maxExponent : Nat := 0x7FFFFFFF

namespace Numeral

/-- The float of a significand and a decimal exponent. -/
def toFloat? (negative : Bool) (significand : Nat) (e : Int) : Option Number :=
  ((Binary64.ofNat significand).bind fun x => scaleBy x e 4).map fun x =>
    .float (if negative then x.neg else x)

/-- The exponent of a numeral: `none` when it is too large to be read. -/
def exponentValue? (sign : Bool) (digits : List Char) : Option Int :=
  let n := Text.ofDigits digits
  if maxExponent < n then none else some (if sign then -(n : Int) else n)

/-- The number of a numeral, if it is in range. -/
def value? (x : Numeral) : Option Number :=
  let (m, taken) := gather 0 x.whole
  let dropped : Int := (x.whole.length - taken : Nat)
  match x.fraction, x.exponent with
  | none, none =>
    if x.whole.length = taken then
      if !x.negative then some (.integer m)
      else if 0 < m ∧ m ≤ 0x8000000000000000 then some (.integer (-m))
      else toFloat? true m 0
    else toFloat? x.negative m dropped
  | fraction, exponent =>
    let (m, places) := gather m (fraction.getD [])
    let start := dropped - places
    match exponent with
    | none => toFloat? x.negative m start
    | some (sign, digits) =>
      match exponentValue? sign digits with
      | some e => toFloat? x.negative m (start + e)
      | none => if m = 0 ∨ sign then some (.float (.zero x.negative)) else none

/-- How many digits of an exponent are read until it is too large. -/
def exponentReach (digits : List Char) : Nat :=
  ((List.range (digits.length + 1)).find? fun k =>
    maxExponent < Text.ofDigits (digits.take k)).getD digits.length

end Numeral
end Json
end Pagewright
