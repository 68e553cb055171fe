/-
# Shortest decimal text of binary64 numbers

The reals that round to a number of significand `m` and exponent `p` form an
interval around it; in units of `2 ^ p / 4` it reaches from `4 * m - 2` (from
`4 * m - 1` below a power of two) to `4 * m + 2`, its ends included when `m` is
even. Among the decimals of one digit, of two digits, and so on, the first
length with a decimal inside the interval is taken, and of that length the
decimal nearest to the number, an even last digit where two are as near. Only
the two neighbours of the number on the grid of a length have to be tried: if
some grid point lies in the interval then one of them does.

The layout is part of the JSON format: exponents `-5` to `15` are written
positionally with at least one decimal, all others with one digit before the
point and an exponent that carries its sign.
-/

import Pagewright.Binary64.Basic

namespace Pagewright
namespace Binary64

/-- The decimal `digits * 10 ^ exponent`. -/
structure Decimal where
  digits : Nat
  exponent : Int
deriving DecidableEq

/-- The exponent `e` with `10 ^ e ≤ n / d < 10 ^ (e + 1)`, for positive `n` and `d`. -/
def leadingExponent (n d : Nat) : Int :=
  if d ≤ n then ((Nat.toDigits 10 (n / d)).length : Int) - 1
  else
    let up := (d + n - 1) / n
    0 - ((Nat.toDigits 10 (up - 1)).length : Int)

/-- Whether the decimal `k * 10 ^ e` rounds to the number of significand `m` and
exponent `p`. -/
def inInterval (m p k : Nat) (e : Int) : Bool :=
  let below := if m = 1 <<< 52 ∧ 0 < p then 4 * m - 1 else 4 * m - 2
  let above := 4 * m + 2
  -- `k * 10 ^ e` and the ends, over the common denominator `4 * 2 ^ 1074 * 10 ^ -e`
  let value := (4 * k * Nat.pow 10 e.toNat) <<< 1074
  let unit := Nat.pow 10 (-e).toNat <<< p
  if m % 2 = 0 then below * unit ≤ value && value ≤ above * unit
  else below * unit < value && value < above * unit

/-- The decimal with `k` or `k + 1` on the grid of `10 ^ e`, if one rounds to the
number: the one that is nearest. -/
def onGrid? (m p : Nat) (e : Int) : Option Decimal :=
  -- the number on the grid is `n / d`
  let n := (m * Nat.pow 10 (-e).toNat) <<< p
  let d := Nat.pow 10 e.toNat <<< 1074
  let low := n / d
  let near := nearest n d
  let far := if near = low then low + 1 else low
  if inInterval m p near e then some ⟨near, e⟩
  else if inInterval m p far e then some ⟨far, e⟩
  else none

/-- The shortest decimal that rounds to a number which is not zero: grids of one
to seventeen digits are tried in turn. -/
def shortest (x : Binary64) : Decimal :=
  let e := leadingExponent x.scaled (1 <<< 1074)
  ((List.range 17).findSome? fun (i : Nat) => onGrid? x.significand x.exponent (e - (i : Int))).getD ⟨0, 0⟩

/-- How a decimal is laid out as text. -/
structure Layout where
  /-- The least decimal exponent written positionally. -/
  positionalFrom : Int
  /-- The greatest decimal exponent written positionally. -/
  positionalTo : Int

/-- The layout of JSON numbers: positional for decimal exponents `-5` to `15`. -/
def Layout.json : Layout := ⟨-5, 15⟩

/-- A decimal as text. -/
def Layout.text (layout : Layout) (x : Decimal) : String :=
  let trimmed := (Nat.toDigits 10 x.digits).reverse.dropWhile (· == '0')
  let digits := trimmed.reverse
  let exponent := x.exponent + ((Nat.toDigits 10 x.digits).length : Int) - 1
  let point (whole fraction : List Char) : List Char :=
    whole ++ '.' :: (if fraction.isEmpty then ['0'] else fraction)
  if layout.positionalFrom ≤ exponent ∧ exponent ≤ layout.positionalTo then
    if exponent < 0 then
      String.ofList ('0' :: '.' :: List.replicate (-exponent - 1).toNat '0' ++ digits)
    else
      let places := exponent.toNat + 1
      let padded := digits ++ List.replicate (places - digits.length) '0'
      String.ofList (point (padded.take places) (padded.drop places))
  else
    let mantissa :=
      match digits with
      | d :: e :: rest => d :: '.' :: e :: rest
      | short => short
    let sign := if exponent < 0 then "e-" else "e+"
    String.ofList mantissa ++ sign ++ toString exponent.natAbs

/-- The shortest text that reads back as the number, in the layout of JSON. -/
def toText (x : Binary64) : String :=
  let sign := if x.negative then "-" else ""
  if x.isZero then sign ++ "0.0" else sign ++ Layout.json.text x.shortest

end Binary64
end Pagewright
