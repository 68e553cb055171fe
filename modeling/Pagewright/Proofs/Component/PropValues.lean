/-
# Which JSON values are code

A value in memory is read as a prop value at any depth. Two forms are read as code:

| form | code |
| --- | --- |
| `{ "$expr": "c" }`, an object with this one key | `c` |
| `[ "c" ]`, an array with one string | `c` |

Every other value is read as the literal that it is (`ofJson_reads`). Only the first form is
documented, and arrays are documented as literals. So a value is read as the documentation
says exactly if it is not an array with one string: `["go()"]` in a page file becomes code
(`ofJson_list_is_code`).
-/

import Pagewright.Proofs.Json.Values
import Pagewright.Source.Jsx

namespace Pagewright
namespace PropValue

/-- A value that is read as code. -/
def SpellsCode (v : Json) (code : String) : Prop :=
  v = .object [(expressionKey, .string code)] ∨ v = .array [.string code]

/-- What a value is read as. -/
def reading (v : Json) : PropValue :=
  match code? (.ofJson v) with
  | some code => .expression code
  | none => .literal v

/-- What a value is documented to be read as: code is an object with the single key `$expr`
and a text, everything else is a literal. -/
def documented (v : Json) : PropValue :=
  match v with
  | .object [(key, .string code)] => if key = expressionKey then .expression code else .literal v
  | _ => .literal v

/-- **Code is spelled in two forms.** -/
theorem code?_ofJson_eq_some_iff {v : Json} {code : String} :
    code? (.ofJson v) = some code ↔ SpellsCode v code := by
  unfold SpellsCode
  cases v with
  | array items =>
    rcases items with _ | ⟨x, _ | ⟨y, items⟩⟩
    · simp [Json.Node.ofJson, Json.Node.itemsOfJson, code?]
    · cases x <;> simp [Json.Node.ofJson, Json.Node.itemsOfJson, code?, Except.toOption]
    · cases x <;> simp [Json.Node.ofJson, Json.Node.itemsOfJson, code?]
  | object fields =>
    rcases fields with _ | ⟨⟨key, x⟩, _ | ⟨f, fields⟩⟩
    · simp [Json.Node.ofJson, Json.Node.fieldsOfJson, code?]
    · cases x <;> simp [Json.Node.ofJson, Json.Node.fieldsOfJson, code?]
    · cases x <;> simp [Json.Node.ofJson, Json.Node.fieldsOfJson, code?]
  | _ => simp [Json.Node.ofJson, code?]

/-- A value is read as code exactly if it spells this code. -/
theorem reading_eq_expression_iff {v : Json} {code : String} :
    reading v = .expression code ↔ SpellsCode v code := by
  rw [← code?_ofJson_eq_some_iff, reading]
  cases code? (.ofJson v) <;> simp

/-- A value is read as a literal exactly if it is this literal and spells no code. -/
theorem reading_eq_literal_iff {v w : Json} :
    reading v = .literal w ↔ v = w ∧ ∀ code, ¬ SpellsCode v code := by
  simp only [← code?_ofJson_eq_some_iff, reading]
  cases code? (.ofJson v) <;> simp

/-- **A value is read** exactly if there is room for its brackets, as code or as itself. -/
theorem ofNode_ofJson_eq_ok_iff {v : Json} (h : v.Distinct) {room : Nat} {x : PropValue} :
    ofNode room (.ofJson v) = .ok x ↔ v.depth ≤ room ∧ reading v = x := by
  rw [ofNode, bind_eq_ok]
  simp only [Json.Node.toJson_ofJson_eq_ok_iff v h, pure_eq_ok_iff, and_assoc, exists_and_left,
    exists_eq_left']
  exact Iff.rfl

/-- A value with distinct keys is always read, as its reading. -/
theorem ofJson_eq_ok_iff {v : Json} (h : v.Distinct) {x : PropValue} :
    ofJson v = .ok x ↔ reading v = x := by
  rw [ofJson, ofNode_ofJson_eq_ok_iff h, and_iff_right (Nat.le_refl _)]

/-- A value that is not in the documented form of code is documented as a literal. -/
theorem documented_of_ne {v : Json} (h : ∀ code, v ≠ .object [(expressionKey, .string code)]) :
    documented v = .literal v := by
  unfold documented
  split
  · next key code =>
    split
    · next hkey => exact absurd rfl (hkey ▸ h code)
    · rfl
  · rfl

/-- The reading is the documented one but for an array with one string. -/
theorem reading_eq_documented_iff {v : Json} :
    reading v = documented v ↔ ∀ code, v ≠ .array [.string code] := by
  constructor
  · rintro h code rfl
    have hcode : reading (.array [.string code]) = .expression code :=
      reading_eq_expression_iff.2 (.inr rfl)
    rw [hcode] at h
    cases h
  · intro h
    by_cases hobject : ∃ code, v = .object [(expressionKey, .string code)]
    · obtain ⟨code, rfl⟩ := hobject
      exact reading_eq_expression_iff.2 (.inl rfl)
    · rw [not_exists] at hobject
      rw [documented_of_ne hobject]
      exact reading_eq_literal_iff.2 ⟨rfl, fun code hcode => hcode.elim (hobject code) (h code)⟩

/-- **What a value is read as.** It is read as code exactly if it is an object with the single
key `$expr` and a text, or an array with one string, and as itself exactly if it is neither.
So it is read as it is documented exactly if it is not an array with one string. -/
theorem ofJson_reads {v : Json} (h : v.Distinct) :
    (∀ code, ofJson v = .ok (.expression code) ↔
      v = .object [(expressionKey, .string code)] ∨ v = .array [.string code]) ∧
    (∀ w, ofJson v = .ok (.literal w) ↔
      v = w ∧ ∀ code, v ≠ .object [(expressionKey, .string code)] ∧ v ≠ .array [.string code]) ∧
    (ofJson v = .ok (documented v) ↔ ∀ code, v ≠ .array [.string code]) := by
  refine ⟨fun code => ?_, fun w => ?_, ?_⟩
  · rw [ofJson_eq_ok_iff h, reading_eq_expression_iff, SpellsCode]
  · rw [ofJson_eq_ok_iff h, reading_eq_literal_iff]
    simp only [SpellsCode, not_or, ne_eq]
  · rw [ofJson_eq_ok_iff h, reading_eq_documented_iff]

/-- The hypothesis of `ofJson_reads` is satisfiable: a marked object beside another key is a
literal, and so is one that stands in an array. -/
theorem ofJson_reads_marked :
    (Json.object [("$expr", .string "x"), ("other", .null)]).Distinct ∧
      ofJson (.object [("$expr", .string "x"), ("other", .null)]) =
        .ok (.literal (.object [("$expr", .string "x"), ("other", .null)])) ∧
      ofJson (.array [.object [("$expr", .string "x")]]) =
        .ok (.literal (.array [.object [("$expr", .string "x")]])) := by
  have hobject : (Json.object [("$expr", .string "x"), ("other", .null)]).Distinct := by
    simp [Json.Distinct, Json.DistinctFields]
  have harray : (Json.array [.object [("$expr", .string "x")]]).Distinct := by
    simp [Json.Distinct, Json.DistinctItems, Json.DistinctFields]
  exact ⟨hobject, ((ofJson_reads hobject).2.1 _).2 ⟨rfl, by simp⟩,
    ((ofJson_reads harray).2.1 _).2 ⟨rfl, by simp⟩⟩

/-- **A list becomes code:** the one text of an array stands in the source as it is, though an
array is documented to be a literal. -/
theorem ofJson_list_is_code :
    (Json.array [.string "go()"]).Distinct ∧
      ofJson (.array [.string "go()"]) = .ok (.expression "go()") ∧
      documented (.array [.string "go()"]) = .literal (.array [.string "go()"]) ∧
      Source.Jsx.attributeText "items" (.expression "go()") = "items=\x7bgo()\x7d" :=
  ⟨⟨trivial, trivial⟩, rfl, rfl, by decide⟩

end PropValue
end Pagewright
