/-
# Bare scalars in TOML

A scalar without quotes is a truth value, an integer, a float, or a date or time.
Underscores may stand between digits.

| scalar | JSON value |
| --- | --- |
| `true`, `false` | the truth value |
| `0`, `-17`, `+1_000`, `0xff`, `0o17`, `0b101` | an integer from `-2 ^ 63` to `2 ^ 64 - 1` |
| `1.5`, `6e-3`, `-0.0` | the nearest float, which must be finite |
| `inf`, `nan` with or without a sign | `null` |
| a date or time | an object that marks its text |
-/

import Pagewright.Json.Basic
import Pagewright.Toml.Moment

namespace Pagewright
namespace Toml

/-- The digits of a numeral without the underscores, each of which must stand
between two digits. -/
def plainDigits? (ok : Char → Bool) : List Char → Option (List Char)
  | [] => none
  | [c] => if ok c then some [c] else none
  | c :: d :: rest =>
    if !ok c then none
    else if d = '_' then
      match rest with
      | e :: _ => if ok e then (plainDigits? ok rest).map (c :: ·) else none
      | [] => none
    else (plainDigits? ok (d :: rest)).map (c :: ·)

/-- The value of a digit in a base up to sixteen. -/
def digitValue? (base : Nat) (c : Char) : Option Nat :=
  let n :=
    if c.isDigit then some (Text.digitValue c)
    else if 'a' ≤ c && c ≤ 'f' then some (c.toNat - 'a'.toNat + 10)
    else if 'A' ≤ c && c ≤ 'F' then some (c.toNat - 'A'.toNat + 10)
    else none
  n.filter (· < base)

/-- The number that digits of a base denote. -/
def ofBase? (base : Nat) (s : List Char) : Option Nat := do
  let ds ← plainDigits? (fun c => (digitValue? base c).isSome) s
  let values ← ds.mapM (digitValue? base)
  pure (values.foldl (fun n d => base * n + d) 0)

/-- The digits before the point: no zero in front of another digit. -/
def wholeDigits? (s : List Char) : Option (List Char) :=
  match plainDigits? Char.isDigit s with
  | some ('0' :: _ :: _) => none
  | other => other

/-- A numeral without its sign, and whether it is negative. -/
def unsigned : List Char → Bool × List Char
  | '-' :: s => (true, s)
  | '+' :: s => (false, s)
  | s => (false, s)

/-- An integer of any size. -/
def integer? (s : List Char) : Option Int :=
  match s with
  | '0' :: 'x' :: ds => (ofBase? 16 ds).map Int.ofNat
  | '0' :: 'o' :: ds => (ofBase? 8 ds).map Int.ofNat
  | '0' :: 'b' :: ds => (ofBase? 2 ds).map Int.ofNat
  | _ =>
    let (negative, body) := unsigned s
    (wholeDigits? body).map fun ds =>
      let n : Int := Text.ofDigits ds
      if negative then -n else n

/-- Whether an integer is in range. -/
def inRange (n : Int) : Bool := -0x8000000000000000 ≤ n && n < 0x10000000000000000

/-- The exponent of a float, from what follows the `e`. -/
def exponent? (s : List Char) : Option Int :=
  let (negative, body) := unsigned s
  (plainDigits? Char.isDigit body).map fun ds =>
    let n : Int := Text.ofDigits ds
    if negative then -n else n

/-- A float in digits; it has a fraction or an exponent. -/
def float? (s : List Char) : Option Binary64 := do
  let (negative, body) := unsigned s
  let isMark (c : Char) : Bool := c == 'e' || c == 'E'
  let mantissa := body.takeWhile fun c => !isMark c
  let exponent ←
    match body.dropWhile fun c => !isMark c with
    | [] => some 0
    | _ :: s => exponent? s
  let whole ← wholeDigits? (mantissa.takeWhile (· != '.'))
  let fraction ←
    match mantissa.dropWhile (· != '.') with
    | [] => if mantissa.length = body.length then none else some []
    | _ :: s => plainDigits? Char.isDigit s
  Binary64.ofDecimal negative (Text.ofDigits (whole ++ fraction)) (exponent - fraction.length)

/-- Whether a scalar is an infinity or no number. -/
def isSpecial (s : List Char) : Bool :=
  let (_, body) := unsigned s
  body == ['i', 'n', 'f'] || body == ['n', 'a', 'n']

/-- The key that marks a date or time. -/
def momentKey : String := "$__toml_private_datetime"

/-- The value of a bare scalar. -/
def scalar? (s : List Char) : Option Json :=
  if s = ['t', 'r', 'u', 'e'] then some (.bool true)
  else if s = ['f', 'a', 'l', 's', 'e'] then some (.bool false)
  else if isSpecial s then some .null
  else
    match integer? s with
    | some n => if inRange n then some (.number (.integer n)) else none
    | none =>
      match float? s with
      | some x => some (.number (.float x))
      | none =>
        (Moment.parse? s).map fun text =>
          .object [(momentKey, .string (String.ofList text))]

end Toml
end Pagewright
