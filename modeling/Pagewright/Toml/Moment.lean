/-
# Dates and times in TOML

| form | example | written |
| --- | --- | --- |
| date | `1979-05-27` | the same |
| time | `07:32`, `07:32:00.50`, `07:32:00.0` | `07:32:00`, `07:32:00.5`, `07:32:00` |
| date and time | `1979-05-27 07:32:00` | `1979-05-27T07:32:00` |
| with offset | `1979-05-27t07:32:00z`, `…-07:00` | `…Z`, `…-07:00` |

A `T` in either case or one space stands between date and time. Seconds may be
left out when read, and with them their fraction, of which nine digits count; they
are always written, and a fraction only if it is not zero. A day must exist in its
month; the second of a minute goes to 60.
-/

import Pagewright.Text.Digit

namespace Pagewright
namespace Toml
namespace Moment

/-- The digits in front of a text, and what follows. -/
def digits (s : List Char) : List Char × List Char :=
  (s.takeWhile Char.isDigit, s.dropWhile Char.isDigit)

/-- A number of exactly `width` digits in front of a text. -/
def number? (width : Nat) (s : List Char) : Option (Nat × List Char) :=
  let (ds, rest) := digits s
  if ds.length = width then some (Text.ofDigits ds, rest) else none

/-- A number in decimal with zeros in front up to a width. -/
def padded (width n : Nat) : List Char :=
  let ds := Nat.toDigits 10 n
  List.replicate (width - ds.length) '0' ++ ds

/-- Whether a year has a leap day. -/
def isLeap (year : Nat) : Bool := year % 4 = 0 && (year % 100 != 0 || year % 400 = 0)

/-- The number of days in a month. -/
def daysIn (year month : Nat) : Nat :=
  if month = 2 then (if isLeap year then 29 else 28)
  else if month = 4 || month = 6 || month = 9 || month = 11 then 30
  else 31

/-- A separator in front of a text. -/
def expect? (c : Char) : List Char → Option (List Char)
  | d :: rest => if d = c then some rest else none
  | [] => none

/-- A date, as it is written, and what follows. -/
def date? (s : List Char) : Option (List Char × List Char) := do
  let (year, s) ← number? 4 s
  let s ← expect? '-' s
  let (month, s) ← number? 2 s
  let s ← expect? '-' s
  let (day, s) ← number? 2 s
  if 1 ≤ month && month ≤ 12 && 1 ≤ day && day ≤ daysIn year month then
    some (padded 4 year ++ '-' :: padded 2 month ++ '-' :: padded 2 day, s)
  else none

/-- The fraction of a second, as it is written, from its digits. -/
def fraction (ds : List Char) : List Char :=
  match ((ds.take 9).reverse.dropWhile (· == '0')).reverse with
  | [] => []
  | kept => '.' :: kept

/-- The seconds of a time, as they are written, and what follows. -/
def seconds? : List Char → Option (List Char × List Char)
  | ':' :: s => do
    let (second, s) ← number? 2 s
    if 60 < second then none
    else
      match s with
      | '.' :: s =>
        let (ds, s) := digits s
        if ds.isEmpty then none else some (':' :: padded 2 second ++ fraction ds, s)
      | s => some (':' :: padded 2 second, s)
  | s => some (':' :: padded 2 0, s)

/-- A time, as it is written, and what follows. -/
def time? (s : List Char) : Option (List Char × List Char) := do
  let (hour, s) ← number? 2 s
  let s ← expect? ':' s
  let (minute, s) ← number? 2 s
  let (seconds, s) ← seconds? s
  if hour ≤ 23 && minute ≤ 59 then
    some (padded 2 hour ++ ':' :: padded 2 minute ++ seconds, s)
  else none

/-- A distance from universal time, as it is written, after its sign. -/
def distance? (sign : Char) (s : List Char) : Option (List Char) := do
  let (hour, s) ← number? 2 s
  let s ← expect? ':' s
  let (minute, s) ← number? 2 s
  let sign := if hour = 0 && minute = 0 then '+' else sign
  if s.isEmpty && hour ≤ 23 && minute ≤ 59 then
    some (sign :: padded 2 hour ++ ':' :: padded 2 minute)
  else none

/-- What may follow a date and time: nothing or an offset. -/
def offset? : List Char → Option (List Char)
  | [] => some []
  | ['Z'] | ['z'] => some ['Z']
  | '+' :: s => distance? '+' s
  | '-' :: s => distance? '-' s
  | _ => none

/-- A date or time, as it is written. -/
def parse? (s : List Char) : Option (List Char) :=
  match date? s with
  | some (date, []) => some date
  | some (date, c :: s) =>
    if c == 'T' || c == 't' || c == ' ' then do
      let (time, s) ← time? s
      let offset ← offset? s
      some (date ++ 'T' :: time ++ offset)
    else none
  | none =>
    match time? s with
    | some (time, []) => some time
    | _ => none

end Moment
end Toml
end Pagewright
