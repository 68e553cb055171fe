/-
# Literals are read back from attributes

The value of an attribute is written in a form that depends on the literal:

| literal | form | why it is read back |
| --- | --- | --- |
| a string without `"`, `&` and line feed | between quotes | nothing ends it, no reference in it |
| any other string | a JSON string in braces | it is quoted character by character |
| an object | an object literal in braces | each key is a bare name or quoted, each value compact |
| anything else | compact JSON in braces | a value is read back from its compact text |

In braces stands either an object literal or a value in the compact layout, and an object literal
with entries is no such value: it has a space behind its brace. So every literal is read back
(`readAttribute_attributeText`), whatever the name, and no two are written alike.
-/

import Pagewright.Proofs.Script.AttributeReading
import Pagewright.Proofs.Text.Names
import Pagewright.Source.Jsx
import Mathlib.Logic.Function.Basic

namespace Pagewright
namespace Source
namespace Jsx

open Script (EndsNumeral endsNumeral_cons readAttribute readEntries readEntry readLiteral readValue
  readValue_append readWhole)

/-! ## Keys -/

/-- Identifiers start with the same characters where they are written and where they are read. -/
theorem isIdentifierStart_eq (c : Char) : isIdentifierStart c = Script.isNameStart c := by
  rw [isIdentifierStart, Script.isNameStart, Naming.isAsciiLetter_eq_isAlpha]

theorem isIdentifierPart_eq (c : Char) : isIdentifierPart c = Script.isNamePart c := by
  rw [isIdentifierPart, Script.isNamePart, isIdentifierStart_eq, Naming.isAsciiDigit_eq_isDigit]

/-- A key as it is written. -/
def keyText (key : String) : String := if isIdentifier key then key else Json.quote key

/-- **A key is read back** in front of a colon. -/
theorem readEntryKey_keyText (key : String) (rest : List Char) :
    Script.readEntryKey ((keyText key).toList ++ ':' :: rest) = some (key, ':' :: rest) := by
  unfold keyText
  split
  · next hkey =>
    have hstop : ∀ c ∈ (':' :: rest).head?, Script.isNamePart c = false := by
      rintro c ⟨⟩
      decide
    rw [isIdentifier] at hkey
    split at hkey
    · cases hkey
    · next c name hname =>
      rw [Bool.and_eq_true, isIdentifierStart_eq, List.all_eq_true] at hkey
      obtain ⟨hstart, hparts⟩ := hkey
      have hall : ∀ d ∈ c :: name, Script.isNamePart d := by
        rw [List.forall_mem_cons]
        refine ⟨by rw [Script.isNamePart, hstart, Bool.true_or], fun d hd => ?_⟩
        rw [← isIdentifierPart_eq]
        exact hparts d hd
      rw [hname, Script.readEntryKey_name hstart hall hstop, ← hname, String.ofList_toList]
  · exact Script.readEntryKey_quote key _

/-! ## Object literals -/

/-- **An entry is read back** in front of a text that ends a numeral. -/
theorem readEntry_objectEntry (e : String × Json) {rest : List Char} (hrest : EndsNumeral rest) :
    readEntry ((objectEntry e).toList ++ rest) = some (e, rest) := by
  have htext : (objectEntry e).toList ++ rest =
      (keyText e.1).toList ++ ':' :: (' ' :: (e.2.compact.toList ++ rest)) := by
    simp [objectEntry, keyText]
  have hvalue := readValue_append e.2 hrest
  rw [htext, readEntry, readEntryKey_keyText]
  change (readValue (e.2.compact.toList ++ rest).length (e.2.compact.toList ++ rest)).bind _ = _
  rw [hvalue]
  rfl

/-- The first entry of several, with what the others are joined to. -/
theorem toList_entries_cons (e : String × Json) {fields : List (String × Json)} (h : fields ≠ []) :
    (Text.join ", " ((e :: fields).map objectEntry)).toList =
      (objectEntry e).toList ++ ',' :: ' ' :: (Text.join ", " (fields.map objectEntry)).toList := by
  rw [List.map_cons, Text.toList_join_cons _ _ (by simpa using h)]
  rfl

/-- **Entries are read back** up to the closing brace. -/
theorem readEntries_objectEntries : ∀ (fields : List (String × Json)) {fuel : ℕ}
    {rest : List Char}, fields ≠ [] →
    (Text.join ", " (fields.map objectEntry)).toList.length < fuel →
      readEntries fuel
        ((Text.join ", " (fields.map objectEntry)).toList ++ ' ' :: '\x7d' :: rest) =
          some (fields, rest)
  | [], _, _, hne, _ => absurd rfl hne
  | _ :: _, 0, _, _, hfuel => absurd hfuel (Nat.not_lt_zero _)
  | e :: fields, fuel + 1, rest, _, hfuel => by
    by_cases hne : fields = []
    · subst hne
      have htext : Text.join ", " ([e].map objectEntry) = objectEntry e := rfl
      rw [htext, readEntries, readEntry_objectEntry e (endsNumeral_cons (by decide) _)]
      rfl
    · rw [toList_entries_cons e hne, List.length_append, List.length_cons,
        List.length_cons] at hfuel
      have hread := @readEntries_objectEntries fields fuel rest hne (by omega)
      rw [toList_entries_cons e hne, List.append_assoc, List.cons_append, List.cons_append,
        readEntries, readEntry_objectEntry e (endsNumeral_cons (by decide) _)]
      exact congrArg (Option.map _) hread

/-- An object literal is its entries between braces. -/
theorem toList_objectLiteral {fields : List (String × Json)} (h : fields ≠ []) :
    (objectLiteral fields).toList = '\x7b' :: ' ' ::
      ((Text.join ", " (fields.map objectEntry)).toList ++ [' ', '\x7d']) := by
  obtain ⟨e, fields, rfl⟩ := List.exists_cons_of_ne_nil h
  simp [objectLiteral]

/-- **An object literal** is read back as its fields. -/
theorem readLiteral_objectLiteral (fields : List (String × Json)) :
    readLiteral (objectLiteral fields).toList = some (.object fields) := by
  by_cases hne : fields = []
  · rw [hne]
    rfl
  · have hread := @readEntries_objectEntries fields
      ((Text.join ", " (fields.map objectEntry)).toList ++ [' ', '\x7d']).length [] hne (by simp)
    rw [toList_objectLiteral hne, readLiteral, hread]

/-- **An object literal is no other value** in the compact layout: only the empty one is one. -/
theorem readWhole_objectLiteral (fields : List (String × Json)) :
    readWhole (objectLiteral fields).toList = none ∨
      readWhole (objectLiteral fields).toList = some (.object fields) := by
  by_cases hne : fields = []
  · rw [hne]
    exact .inr rfl
  · have hkey (l : List Char) : Script.readKey (' ' :: l) = none := rfl
    have hfields (n : ℕ) (l : List Char) : Script.readFields n (' ' :: l) = none := by
      cases n with
      | zero => rfl
      | succ n => rw [Script.readFields, hkey]; rfl
    rw [toList_objectLiteral hne, readWhole, List.length_cons,
      Script.readValue_braces (by simp), hfields]
    exact .inl rfl

/-! ## Attributes -/

/-- Braces hold a value or an object literal. -/
theorem readAttribute_braced (s : String) :
    readAttribute (braced s).toList = (readWhole s.toList).or (readLiteral s.toList) := by
  have htext : (braced s).toList = '\x7b' :: (s.toList ++ ['\x7d']) := by
    simp [braced]
  rw [htext, readAttribute, List.getLast?_concat, if_pos rfl, List.dropLast_concat]

/-- A plain text in quotes is read back. -/
theorem readAttribute_quoted {s : String} (h : isPlainAttribute s) :
    readAttribute ("\"" ++ s ++ "\"").toList = some (.string s) := by
  have htext : ("\"" ++ s ++ "\"").toList = '"' :: (s.toList ++ '"' :: []) := by
    simp
  have hplain : ∀ c ∈ s.toList, c ≠ '"' ∧ c ≠ '&' := by
    intro c hc
    have hchar := List.all_eq_true.1 h c hc
    simp only [Bool.and_eq_true, bne_iff_ne] at hchar
    exact hchar.1
  have hquote : '"' ∉ s.toList := fun hc => (hplain _ hc).1 rfl
  have hamp : '&' ∉ s.toList := fun hc => (hplain _ hc).2 rfl
  rw [htext, readAttribute, Text.splitFirst?_append hquote]
  simp only [Script.decodeReferences_of_not_mem hamp, String.ofList_toList]

/-- A value in braces is read back. -/
theorem readAttribute_compact (v : Json) : readAttribute (braced v.compact).toList = some v := by
  rw [readAttribute_braced, Script.readWhole_compact, Option.some_or]

/-- An object literal in braces is read back. -/
theorem readAttribute_objectLiteral (fields : List (String × Json)) :
    readAttribute (braced (objectLiteral fields)).toList = some (.object fields) := by
  rw [readAttribute_braced]
  rcases readWhole_objectLiteral fields with h | h
  · rw [h, Option.none_or, readLiteral_objectLiteral]
  · rw [h, Option.some_or]

/-- What stands behind the equals sign of a literal. -/
def valueText : Json → String
  | .string s => if isPlainAttribute s then "\"" ++ s ++ "\"" else braced (Json.string s).compact
  | .object fields => braced (objectLiteral fields)
  | v => braced v.compact

/-- The attribute of a literal is its name and its value. -/
theorem attributeText_literal (name : String) (v : Json) :
    attributeText name (.literal v) = name ++ "=" ++ valueText v := by
  cases v <;> rfl

/-- **A literal is read back** behind the equals sign. -/
theorem readAttribute_valueText (v : Json) : readAttribute (valueText v).toList = some v := by
  cases v with
  | string s =>
    by_cases hplain : isPlainAttribute s
    · rw [valueText, if_pos hplain]
      exact readAttribute_quoted hplain
    · rw [valueText, if_neg hplain]
      exact readAttribute_compact (.string s)
  | object fields => exact readAttribute_objectLiteral fields
  | null => exact readAttribute_compact .null
  | bool b => exact readAttribute_compact (.bool b)
  | number n => exact readAttribute_compact (.number n)
  | array items => exact readAttribute_compact (.array items)

/-- **Every literal is read back** from its attribute: behind the name and the equals sign stands a
text that is read as the literal. So two literals of one name are written alike only if they are
equal. -/
theorem readAttribute_attributeText (name : String) :
    (∀ v : Json, ∃ text : String, attributeText name (.literal v) = name ++ "=" ++ text ∧
      readAttribute text.toList = some v) ∧
    Function.Injective fun v : Json => attributeText name (.literal v) := by
  refine ⟨fun v => ⟨valueText v, attributeText_literal name v, readAttribute_valueText v⟩,
    fun v w h => ?_⟩
  have htext : valueText v = valueText w := by
    simp only [attributeText_literal] at h
    exact (String.append_right_inj _).1 h
  have hread := readAttribute_valueText v
  rw [htext, readAttribute_valueText] at hread
  exact (Option.some.inj hread).symm

end Jsx
end Source
end Pagewright
