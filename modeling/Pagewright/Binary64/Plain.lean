/-
# Plain decimals

A plain decimal is written with an optional minus, digits, at most one point,
and at least one digit on either side of it; it has no exponent. `Plain.float?`
is the binary64 number nearest to it, and fails above the finite numbers.
-/

import Pagewright.Binary64.Basic
import Pagewright.Text.Digit
import Pagewright.Text.Search

namespace Pagewright

/-- A decimal without exponent. -/
structure Plain where
  negative : Bool
  whole : List Char
  fraction : List Char
deriving DecidableEq

namespace Plain

/-- The plain decimal that a text spells in ASCII digits. -/
def parse? (s : List Char) : Option Plain :=
  let (negative, body) : Bool × List Char :=
    match s with
    | '-' :: rest => (true, rest)
    | _ => (false, s)
  let (whole, fraction) := (Text.splitFirst? '.' body).getD (body, [])
  if (whole ++ fraction).isEmpty || !(whole ++ fraction).all Char.isDigit then none
  else some ⟨negative, whole, fraction⟩

/-- The binary64 number nearest to a plain decimal, if it is finite. -/
def float? (x : Plain) : Option Binary64 :=
  Binary64.ofDecimal x.negative (Text.ofDigits (x.whole ++ x.fraction)) (-(x.fraction.length : Int))

end Plain
end Pagewright
