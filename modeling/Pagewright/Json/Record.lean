/-
# Records in JSON values

A record is an object that gives its fields by name. Depending on where the
value comes from, a record may also be an array of its fields in order, also
where it is the data of a choice; `null` may stand for an optional field; and a
choice without data may carry an empty payload:

| source | record as array | data of a choice as array | optional `null` | payload without data |
| --- | --- | --- | --- | --- |
| `json`, a JSON value | yes | no | yes | `null` |
| `toml`, a TOML value | no | no | no | an empty table or array |
| the rules of a component in JSON | yes | yes | yes | `null` |
| the rules of a component in TOML | yes | yes | no | none |

In a TOML value `null` stands for a float that is not finite; no choice and no
optional field takes it.

What a missing field means depends on the kind of field. A field with a default
may be missing anywhere; an optional field may be missing from an object, but an
array must reach to it.
-/

import Pagewright.Json.Basic
import Pagewright.Platform

namespace Pagewright
namespace Json

/-- How records and choices are written in a source of values. -/
structure Convention where
  arrays : Bool
  choiceArrays : Bool
  nulls : Bool
  payload : Json → Bool

namespace Convention

/-- Records and choices in a JSON value. -/
def json : Convention := ⟨true, false, true, fun v => v == .null⟩

/-- Records and choices in a TOML value. -/
def toml : Convention :=
  ⟨false, false, false, fun v => v == .object [] || v == .array []⟩

/-- Records and choices in the rules of a component, in values of a source. -/
def inRules (c : Convention) : Convention :=
  ⟨true, true, c.nulls, fun v => c.nulls && v == .null⟩

end Convention

/-- What a record has to say about one of its fields. -/
inductive Slot where
  | given (v : Json)
  /-- The record is an object without the field. -/
  | missing
  /-- The record is an array that ends before the field. -/
  | cut

namespace Slot

/-- A field that must be given. -/
def required (read : Json → Option α) : Slot → Option α
  | .given v => read v
  | _ => none

/-- A field that may be missing from an object, or `null` where the source allows it. -/
def optional (convention : Convention) (read : Json → Option α) : Slot → Option (Option α)
  | .given v => if convention.nulls && v == .null then some none else (read v).map some
  | .missing => some none
  | .cut => none

/-- A field with a default. -/
def orElse (default : α) (read : Json → Option α) : Slot → Option α
  | .given v => read v
  | _ => some default

end Slot

/-- The slots of a record's fields, in the order of their names. A `closed`
record has no other fields. -/
def slots? (arrays closed : Bool) (names : List String) : Json → Option (List Slot)
  | .object fields =>
    if closed && !fields.all fun f => names.contains f.1 then none
    else
      some (names.map fun name =>
        match fields.lookup name with
        | some v => .given v
        | none => .missing)
  | .array items =>
    if !arrays || names.length < items.length then none
    else
      some (items.map Slot.given ++ List.replicate (names.length - items.length) Slot.cut)
  | _ => none

/-- The truth value of a JSON value. -/
def bool? : Json → Option Bool
  | .bool b => some b
  | _ => none

/-- The items of an array, each read by `read`. -/
def items? (read : Json → Option α) : Json → Option (List α)
  | .array items => items.mapM read
  | _ => none

/-- The entries of an object, each value read by `read`. -/
def entries? (read : Json → Option α) : Json → Option (Dict String α)
  | .object fields =>
    (fields.mapM fun (f : String × Json) => (read f.2).map fun x => (f.1, x)).map Dict.ofList
  | _ => none

/-- The platform that a value names. -/
def platform? (convention : Convention) : Json → Option Platform
  | .string s => Platform.ofId? s
  | .object [(k, v)] => if convention.payload v then Platform.ofId? k else none
  | _ => none

end Json
end Pagewright
