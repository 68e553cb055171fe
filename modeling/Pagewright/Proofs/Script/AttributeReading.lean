/-
# What an attribute is read as

The value of an attribute stands behind the equals sign, in one of three forms:

| form | value |
| --- | --- |
| `"s"`, up to the next quote | the string `s`, with the characters in the place of its references |
| `{J}`, a JSON value in the compact layout | the value |
| `{O}`, an object literal | the object with the entries in their order |

An object literal is `{}`, or has entries `k: J` with a comma and a space between them and a space
inside each brace; a key is a bare name or a JSON string. Nothing else is the value of an attribute
here.
-/

import Pagewright.Proofs.Script.TextReading
import Pagewright.Proofs.Script.Values

namespace Pagewright
namespace Script

/-! ## Quoted texts -/

/-- A text with the characters in the place of its references. -/
def decodeReferences : List Char → List Char
  | [] => []
  | c :: rest =>
    if c = '&' then
      match h : readReference rest with
      | some (x, rest') =>
        have := readReference_shortens h
        x :: decodeReferences rest'
      | none => c :: decodeReferences rest
    else c :: decodeReferences rest
termination_by l => l.length

/-- A text without ampersands has no references. -/
theorem decodeReferences_of_not_mem {l : List Char} (h : '&' ∉ l) : decodeReferences l = l := by
  induction l with
  | nil => rw [decodeReferences]
  | cons c l ih =>
    obtain ⟨hc, hl⟩ := not_or.1 (List.mem_cons.not.1 h)
    rw [decodeReferences, if_neg (Ne.symm hc), ih hl]

/-! ## Object literals -/

/-- Whether a character may begin a bare name. -/
def isNameStart (c : Char) : Bool := c.isAlpha || c == '_' || c == '$'

/-- Whether a character may stand in a bare name. -/
def isNamePart (c : Char) : Bool := isNameStart c || c.isDigit

/-- The bare name in front of a text. -/
def readBareName (l : List Char) : Option (String × List Char) :=
  if l.head?.any isNameStart then
    some (String.ofList (l.takeWhile isNamePart), l.dropWhile isNamePart)
  else none

/-- The key in front of a text: a JSON string or a bare name. -/
def readEntryKey : List Char → Option (String × List Char)
  | '"' :: rest =>
    match readScalar ('"' :: rest) with
    | some (.string key, rest) => some (key, rest)
    | _ => none
  | l => readBareName l

/-- The entry in front of a text. -/
def readEntry (l : List Char) : Option ((String × Json) × List Char) := do
  let (key, l) ← readEntryKey l
  let l ← ": ".toList.isPrefixOf? l
  let (v, l) ← readValue l.length l
  some ((key, v), l)

/-- The entries up to the closing brace, at least one. The fuel bounds their number. -/
def readEntries : Nat → List Char → Option (List (String × Json) × List Char)
  | 0, _ => none
  | fuel + 1, l =>
    match readEntry l with
    | some (e, ' ' :: '\x7d' :: rest) => some ([e], rest)
    | some (e, ',' :: ' ' :: rest) =>
      (readEntries fuel rest).map fun found => (e :: found.1, found.2)
    | _ => none

/-- The object that an object literal stands for. -/
def readLiteral : List Char → Option Json
  | ['\x7b', '\x7d'] => some (.object [])
  | '\x7b' :: ' ' :: rest =>
    match readEntries rest.length rest with
    | some (fields, []) => some (.object fields)
    | _ => none
  | _ => none

/-! ## Attributes -/

/-- **The value of an attribute,** read behind the equals sign. -/
def readAttribute : List Char → Option Json
  | '"' :: rest =>
    match Text.splitFirst? '"' rest with
    | some (s, []) => some (.string (String.ofList (decodeReferences s)))
    | _ => none
  | '\x7b' :: rest =>
    if rest.getLast? = some '\x7d' then (readWhole rest.dropLast).or (readLiteral rest.dropLast)
    else none
  | _ => none

/-! ## What is read back -/

/-- A bare name is read up to what is no part of it. -/
theorem readBareName_append {c : Char} {name rest : List Char} (hc : isNameStart c)
    (hname : ∀ d ∈ c :: name, isNamePart d) (hrest : ∀ d ∈ rest.head?, isNamePart d = false) :
    readBareName (c :: name ++ rest) = some (String.ofList (c :: name), rest) := by
  obtain ⟨htake, hdrop⟩ := Text.takeWhile_append_stop hname hrest
  have hhead : (c :: name ++ rest).head?.any isNameStart := hc
  rw [readBareName, if_pos hhead, htake, hdrop]

/-- **A bare name is read** up to the first character that may not stand in it. -/
theorem readEntryKey_name {c : Char} {name rest : List Char} (hc : isNameStart c)
    (hname : ∀ d ∈ c :: name, isNamePart d) (hrest : ∀ d ∈ rest.head?, isNamePart d = false) :
    readEntryKey (c :: name ++ rest) = some (String.ofList (c :: name), rest) := by
  have hquote : c ≠ '"' := by
    rintro rfl
    exact absurd hc (by decide)
  rw [readEntryKey.eq_def]
  split
  · next heq => exact absurd (List.cons.inj heq).1 hquote
  · exact readBareName_append hc hname hrest

/-- A quoted key is read back. -/
theorem readEntryKey_quote (key : String) (rest : List Char) :
    readEntryKey ((Json.quote key).toList ++ rest) = some (key, rest) := by
  obtain ⟨l, hl⟩ := exists_cons_quote key
  have hread : readScalar ((Json.quote key).toList ++ rest) = some (.string key, rest) :=
    readScalar_source (.string key) rest
  rw [hl, List.cons_append] at hread ⊢
  rw [readEntryKey, hread]

end Script
end Pagewright
