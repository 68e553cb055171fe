/-
# The parts of a JSON document

A `Node` is a value as it stands in a text: every part knows the bytes it covers.
Where the text is defective the parts end with one that is broken, so that whoever
goes through a node in order meets the first defect of the text at its place.

Some defects are found only by a reader that takes a part, and not by one that
skips it: a numeral out of range, an escape of a surrogate without its partner,
and nesting beyond `maxDepth` brackets. A failure is the number of bytes that had
been taken from the text when it was noticed:

| failure | bytes taken |
| --- | --- |
| a defect of the text | as `Json.Document` and `Json.Quoted` say |
| a numeral out of range | up to the end of the numeral |
| nesting too deep | up to and with the bracket |
-/

import Pagewright.Json.Basic
import Pagewright.Json.Numeral
import Pagewright.Json.Quoted

namespace Pagewright
namespace Json

/-- The most brackets that may be open at one place. -/
def maxDepth : Nat := 127

/-- The bytes that a part of a document covers. -/
structure Extent where
  start : Nat
  stop : Nat
deriving DecidableEq, Inhabited

/-- A key of an object, and the bytes taken when it is found to be one too many: up
to what follows it, and with that if it is a closing bracket. -/
structure Key extends Quoted where
  reach : Nat

/-- A value as it stands in a document. -/
inductive Node where
  | null (place : Extent)
  | bool (place : Extent) (b : Bool)
  | number (place : Extent) (n : Except Nat Number)
  | string (place : Extent) (s : Quoted)
  | array (start : Nat) (items : List Node)
  | object (start : Nat) (fields : List (Key × Node))
  /-- What should be a value is none, which is noticed after `taken` bytes. -/
  | broken (start taken : Nat)

namespace Node

/-- The bytes taken when a node turns out to be one too many. -/
def surplus : Node → Nat
  | .null e | .bool e _ | .number e _ | .string e _ => e.start + 1
  | .array start _ | .object start _ => start + 1
  | .broken start taken => min (start + 1) taken

/-! ## Values -/

mutual

/-- The value of a node with room for `room` more brackets. A key that occurs
again keeps its first place and takes the last value. -/
def toJson (room : Nat) : Node → Except Nat Json
  | .null _ => .ok .null
  | .bool _ b => .ok (.bool b)
  | .number _ n => n.map .number
  | .string _ s => s.text.map .string
  | .array start items =>
    if room = 0 then .error (start + 1)
    else (itemsToJson (room - 1) items).map .array
  | .object start fields =>
    if room = 0 then .error (start + 1)
    else (fieldsToJson (room - 1) fields).map fun fs => .object (Dict.ofList fs).entries
  | .broken _ taken => .error taken

/-- The values of the items of an array. -/
def itemsToJson (room : Nat) : List Node → Except Nat (List Json)
  | [] => .ok []
  | x :: xs => do
    let v ← toJson room x
    let vs ← itemsToJson room xs
    pure (v :: vs)

/-- The fields of an object, repeated keys included. -/
def fieldsToJson (room : Nat) : List (Key × Node) → Except Nat (List (String × Json))
  | [] => .ok []
  | (k, x) :: rest => do
    let key ← k.text
    let v ← toJson room x
    let fs ← fieldsToJson room rest
    pure ((key, v) :: fs)

end

mutual

/-- Skips a node. -/
def skip : Node → Except Nat Unit
  | .null _ | .bool _ _ | .number _ _ => .ok ()
  | .string _ s => s.skipped
  | .array _ items => skipItems items
  | .object _ fields => skipFields fields
  | .broken _ taken => .error taken

/-- Skips the items of an array. -/
def skipItems : List Node → Except Nat Unit
  | [] => .ok ()
  | x :: xs => do
    skip x
    skipItems xs

/-- Skips the fields of an object. -/
def skipFields : List (Key × Node) → Except Nat Unit
  | [] => .ok ()
  | (k, x) :: rest => do
    k.skipped
    skip x
    skipFields rest

end

mutual

/-- A value as a node without places. -/
def ofJson : Json → Node
  | .null => .null default
  | .bool b => .bool default b
  | .number n => .number default (.ok n)
  | .string s => .string default (.ofString s)
  | .array items => .array 0 (itemsOfJson items)
  | .object fields => .object 0 (fieldsOfJson fields)

/-- The nodes of the items of an array. -/
def itemsOfJson : List Json → List Node
  | [] => []
  | x :: xs => ofJson x :: itemsOfJson xs

/-- The nodes of the fields of an object. -/
def fieldsOfJson : List (String × Json) → List (Key × Node)
  | [] => []
  | (k, v) :: rest => (⟨.ofString k, 0⟩, ofJson v) :: fieldsOfJson rest

end

end Node
end Json
end Pagewright
