/-
# Style policy

What a platform does with one style attribute.

| family | unit of numbers | dropped | lengths | opaque colours |
| --- | --- | --- | --- | --- |
| mini program | `rpx` | `boxShadow`, `transform3d`, `filter` | `px` becomes `rpx` | `rgba` of alpha one becomes `rgb` |
| browser | `px` | | `rpx` becomes `px` | |
| native | none | `boxShadow`, `float`, `clear` | a bare number, unless the unit is `%` | |

Mini programs also rename thirteen attributes to their CSS names. A length is an
optional minus, digits with an optional point before the last run of them, and a
unit of ASCII letters and percent signs; the digits may be those of any script.
Strings of any other form, and values other than numbers and strings, stay as
they are. An attribute whose name contains `color` in any letter case holds a
colour, never a length.
-/

import Pagewright.Binary64.Plain
import Pagewright.Json.Printer
import Pagewright.Platform
import Pagewright.Text.Blank

namespace Pagewright
namespace Style

/-! ## Tables -/

/-- The unit that bare numbers take. -/
def unit (p : Platform) : String :=
  match p.family with
  | .miniProgram => "rpx"
  | .browser => "px"
  | .native => ""

/-- The attributes that a platform has no counterpart for. -/
def unsupported (p : Platform) : List String :=
  match p.family with
  | .miniProgram => ["boxShadow", "transform3d", "filter"]
  | .browser => []
  | .native => ["boxShadow", "float", "clear"]

/-- The attributes that a platform knows by another name. -/
def renames (p : Platform) : List (String × String) :=
  match p.family with
  | .miniProgram => [
    ("backgroundColor", "background-color"),
    ("fontSize", "font-size"),
    ("fontWeight", "font-weight"),
    ("textAlign", "text-align"),
    ("borderRadius", "border-radius"),
    ("marginTop", "margin-top"),
    ("marginRight", "margin-right"),
    ("marginBottom", "margin-bottom"),
    ("marginLeft", "margin-left"),
    ("paddingTop", "padding-top"),
    ("paddingRight", "padding-right"),
    ("paddingBottom", "padding-bottom"),
    ("paddingLeft", "padding-left")]
  | .browser | .native => []

/-- Whether a platform supports an attribute. -/
def isSupported (p : Platform) (key : String) : Bool := !(unsupported p).contains key

/-- The name of an attribute on a platform. -/
def rename (p : Platform) (key : String) : String := ((renames p).lookup key).getD key

/-! ## Lengths -/

/-- A number with a unit, both as written. -/
structure Length where
  number : List Char
  unit : List Char
deriving DecidableEq

/-- Whether a character may stand in a unit. -/
def isUnitChar (c : Char) : Bool := c.isAlpha || c == '%'

/-- The length that a text spells. -/
def Length.parse? (s : List Char) : Option Length :=
  let (sign, body) : List Char × List Char :=
    match s with
    | '-' :: rest => (['-'], rest)
    | _ => ([], s)
  let whole := body.takeWhile Text.isDecimal
  let close (number unit : List Char) : Option Length :=
    if unit.all isUnitChar then some ⟨sign ++ number, unit⟩ else none
  match body.dropWhile Text.isDecimal with
  | '.' :: rest =>
    let fraction := rest.takeWhile Text.isDecimal
    if fraction.isEmpty then none
    else close (whole ++ '.' :: fraction) (rest.dropWhile Text.isDecimal)
  | unit => if whole.isEmpty then none else close whole unit

/-- The number of a length without its unit: an integer that fits in 64 bits,
otherwise the nearest float. -/
def bareNumber? (s : List Char) : Option Number :=
  (Plain.parse? s).bind fun x =>
    let n : Int := Text.ofDigits x.whole
    let n := if x.negative then -n else n
    if '.' ∉ s ∧ -0x8000000000000000 ≤ n ∧ n < 0x8000000000000000 then some (.integer n)
    else x.float?.map .float

/-- A length in the unit of a platform, when it has to change. -/
def rescale? (p : Platform) (s : List Char) : Option Json :=
  (Length.parse? s).bind fun l =>
    match p.family with
    | .miniProgram =>
      if l.unit = ['p', 'x'] then some (.string (String.ofList (l.number ++ ['r', 'p', 'x'])))
      else none
    | .browser =>
      if l.unit = ['r', 'p', 'x'] then some (.string (String.ofList (l.number ++ ['p', 'x'])))
      else none
    | .native => if l.unit = ['%'] then none else (bareNumber? l.number).map .number

/-! ## Colours -/

/-- Whether an attribute holds a colour. -/
def isColor (key : String) : Bool :=
  Text.occurs "color".toList (Text.lowercase key).toList

/-- The channels of a colour with alpha, as written. -/
structure Rgba where
  red : List Char
  green : List Char
  blue : List Char
  alpha : List Char
deriving DecidableEq

/-- A run of decimal digits in front of a text, and the text after `close`. -/
def channel? (close : Char) (s : List Char) : Option (List Char × List Char) :=
  let digits := s.takeWhile Text.isDecimal
  match s.dropWhile Text.isDecimal with
  | c :: rest => if c = close ∧ !digits.isEmpty then some (digits, rest) else none
  | [] => none

/-- The colour that `rgba(r, g, b, a)` spells; blanks may follow each comma. -/
def Rgba.parse? (s : List Char) : Option Rgba := do
  let head := "rgba(".toList
  if !head.isPrefixOf s then none
  let (red, s) ← channel? ',' (s.drop head.length)
  let (green, s) ← channel? ',' (s.dropWhile Text.isBlank)
  let (blue, s) ← channel? ',' (s.dropWhile Text.isBlank)
  let s := s.dropWhile Text.isBlank
  let isAlpha (c : Char) : Bool := Text.isDecimal c || c == '.'
  let alpha := s.takeWhile isAlpha
  if alpha.isEmpty || s.dropWhile isAlpha != [')'] then none
  pure ⟨red, green, blue, alpha⟩

/-- Whether the alpha of a colour reads as one. -/
def Rgba.isOpaque (c : Rgba) : Bool :=
  ((Plain.parse? c.alpha).bind Plain.float?) == some Binary64.one

/-- A colour without its alpha. -/
def Rgba.solid (c : Rgba) : String :=
  "rgb(" ++ String.ofList c.red ++ ", " ++ String.ofList c.green ++ ", " ++
    String.ofList c.blue ++ ")"

/-- A colour as a platform takes it. -/
def normalizeColor (p : Platform) (s : String) : String :=
  if p.isMiniProgram then
    match Rgba.parse? (Text.trim s.toList) with
    | some c => if c.isOpaque then c.solid else s
    | none => s
  else s

/-! ## Attributes -/

/-- The value of an attribute on a platform. -/
def transformValue (p : Platform) (key : String) (v : Json) : Json :=
  match v with
  | .number n => if unit p = "" then v else .string (n.toText ++ unit p)
  | .string s =>
    if isColor key then .string (normalizeColor p s) else (rescale? p s.toList).getD v
  | _ => v

/-- An attribute on a platform; `none` when it is dropped. -/
def transform? (p : Platform) (key : String) (v : Json) : Option (String × Json) :=
  if isSupported p key then some (rename p key, transformValue p key v) else none

end Style
end Pagewright
