/-
# Values as nodes

A value in memory is read as a node without places. Nothing is lost on the way: a value
whose objects have distinct keys is read back as it is, exactly if there is room for its
brackets (`toJson_ofJson_eq_ok_iff`). An object is read as a dictionary entry by entry: the
keys are taken over in their order, and each value is read by itself
(`dict_ofJson_eq_ok_iff`).
-/

import Pagewright.Component.Codec
import Pagewright.Proofs.Failing

namespace Pagewright
namespace Json

/-- No value of a list of fields is deeper than the list. -/
theorem depth_le_of_mem_fields {fields : List (String × Json)} {e : String × Json}
    (h : e ∈ fields) : e.2.depth ≤ depthOfFields fields := by
  induction fields with
  | nil => cases h
  | cons x xs ih =>
    obtain ⟨k, v⟩ := x
    rw [depthOfFields]
    rcases List.mem_cons.1 h with rfl | h
    · exact Nat.le_max_left ..
    · exact Nat.le_trans (ih h) (Nat.le_max_right ..)

/-- A list of fields has distinct keys throughout exactly if each of its values has. -/
theorem distinctFields_iff {fields : List (String × Json)} :
    DistinctFields fields ↔ ∀ e ∈ fields, e.2.Distinct := by
  induction fields with
  | nil => simp [DistinctFields]
  | cons x xs ih => rw [DistinctFields, ih, List.forall_mem_cons]

/-- The object of a dictionary has distinct keys by itself. -/
theorem distinct_ofDict_iff {d : Dict String Json} :
    (ofDict d).Distinct ↔ ∀ e ∈ d.entries, e.2.Distinct := by
  rw [ofDict, Distinct, distinctFields_iff, and_iff_right d.nodup]

namespace Node

/-! ## Values -/

mutual

/-- **A value is read back as it is** exactly if there is room for its brackets. -/
theorem toJson_ofJson_eq_ok_iff : ∀ (v : Json), v.Distinct → ∀ {room : Nat} {w : Json},
    (ofJson v).toJson room = .ok w ↔ v.depth ≤ room ∧ v = w
  | .null, _, room, w => by simp [ofJson, toJson, depth]
  | .bool b, _, room, w => by simp [ofJson, toJson, depth]
  | .number n, _, room, w => by simp [ofJson, toJson, depth, Except.map]
  | .string s, _, room, w => by simp [ofJson, toJson, depth, Except.map]
  | .array items, h, 0, w => by simp [ofJson, toJson, depth]
  | .array items, h, room + 1, w => by
    rw [ofJson, toJson, if_neg (Nat.succ_ne_zero room), map_eq_ok_iff, depth]
    simp only [Nat.add_sub_cancel, itemsToJson_eq_ok_iff items h, Nat.add_le_add_iff_right,
      and_assoc, exists_and_left, exists_eq_left']
  | .object fields, h, 0, w => by simp [ofJson, toJson, depth]
  | .object fields, h, room + 1, w => by
    rw [ofJson, toJson, if_neg (Nat.succ_ne_zero room), map_eq_ok_iff, depth]
    simp only [Nat.add_sub_cancel, fieldsToJson_eq_ok_iff fields h.2, Nat.add_le_add_iff_right,
      and_assoc, exists_and_left, exists_eq_left', Dict.entries_ofList_of_nodup h.1]

/-- Items are read back as they are exactly if there is room for their brackets. -/
theorem itemsToJson_eq_ok_iff : ∀ (items : List Json), DistinctItems items →
    ∀ {room : Nat} {ws : List Json},
      itemsToJson room (itemsOfJson items) = .ok ws ↔ depthOfItems items ≤ room ∧ items = ws
  | [], _, room, ws => by simp [itemsOfJson, itemsToJson, depthOfItems]
  | x :: xs, h, room, ws => by
    rw [itemsOfJson, itemsToJson, bind_eq_ok, depthOfItems]
    simp only [bind_eq_ok, toJson_ofJson_eq_ok_iff x h.1, itemsToJson_eq_ok_iff xs h.2,
      pure_eq_ok_iff, Nat.max_le, and_assoc, exists_and_left, exists_eq_left']

/-- Fields are read back as they are exactly if there is room for their brackets. -/
theorem fieldsToJson_eq_ok_iff : ∀ (fields : List (String × Json)), DistinctFields fields →
    ∀ {room : Nat} {ws : List (String × Json)},
      fieldsToJson room (fieldsOfJson fields) = .ok ws ↔ depthOfFields fields ≤ room ∧ fields = ws
  | [], _, room, ws => by simp [fieldsOfJson, fieldsToJson, depthOfFields]
  | (k, v) :: rest, h, room, ws => by
    rw [fieldsOfJson, fieldsToJson, bind_eq_ok, depthOfFields]
    simp only [Quoted.text_ofString, bind_eq_ok, toJson_ofJson_eq_ok_iff v h.1,
      fieldsToJson_eq_ok_iff rest h.2, pure_eq_ok_iff, Except.ok.injEq, Nat.max_le, and_assoc,
      exists_and_left, exists_eq_left']

end

/-! ## Optional values and dictionaries -/

/-- Null is read as nothing. -/
theorem optional_ofJson_null {α : Type} (read : Node → Except Nat α) :
    (ofJson .null).optional read = .ok none := rfl

/-- A value other than null is read by the reader itself. -/
theorem optional_ofJson_of_ne {α : Type} (read : Node → Except Nat α) {v : Json} (h : v ≠ .null) :
    (ofJson v).optional read = (read (ofJson v)).map some := by
  cases v with
  | null => exact absurd rfl h
  | _ => rfl

variable {α : Type} {read : Node → Except Nat α}

/-- Something is read exactly of a value other than null that the reader takes. -/
theorem optional_ofJson_eq_some_iff {v : Json} {x : α} :
    (ofJson v).optional read = .ok (some x) ↔ v ≠ .null ∧ read (ofJson v) = .ok x := by
  by_cases h : v = .null
  · simp [h, optional_ofJson_null]
  · simp [h, optional_ofJson_of_ne, map_eq_ok_iff]

/-- A field and the entry that it is read as. -/
def IsReadAs (read : Node → Except Nat α) (field : String × Json) (e : String × α) : Prop :=
  field.1 = e.1 ∧ read (ofJson field.2) = .ok e.2

/-- **Entries are read one by one,** each value by itself and under its key. -/
theorem entries_ofJson_eq_ok_iff {fields : List (String × Json)} {l : List (String × α)} :
    entries read (fieldsOfJson fields) = .ok l ↔ List.Forall₂ (IsReadAs read) fields l := by
  induction fields generalizing l with
  | nil => simp [fieldsOfJson, entries, eq_comm]
  | cons field fields ih =>
    obtain ⟨k, v⟩ := field
    rw [fieldsOfJson, entries, List.forall₂_cons_left_iff]
    simp only [Quoted.text_ofString, bind_eq_ok, ih, pure_eq_ok_iff, Except.ok.injEq,
      exists_eq_left', IsReadAs]
    constructor
    · rintro ⟨x, hx, l, hl, rfl⟩
      exact ⟨(k, x), l, ⟨rfl, hx⟩, hl, rfl⟩
    · rintro ⟨⟨_, x⟩, l, ⟨rfl, hx⟩, hl, rfl⟩
      exact ⟨x, hx, l, hl, rfl⟩

/-- Entries that are read keep their keys. -/
theorem map_fst_of_isReadAs {fields : List (String × Json)} {l : List (String × α)}
    (h : List.Forall₂ (IsReadAs read) fields l) : l.map Prod.fst = fields.map Prod.fst := by
  induction h with
  | nil => rfl
  | cons hd _ ih => rw [List.map_cons, List.map_cons, ih, hd.1]

/-- What holds of each value that is read holds of all entries. -/
theorem forall_of_isReadAs {P : α → Prop} {fields : List (String × Json)} {l : List (String × α)}
    (h : List.Forall₂ (IsReadAs read) fields l) (hdistinct : DistinctFields fields)
    (hread : ∀ (w : Json) x, w.Distinct → read (ofJson w) = .ok x → P x) : ∀ e ∈ l, P e.2 := by
  induction h with
  | nil => simp
  | @cons field e fields l he _ ih =>
    exact List.forall_mem_cons.2 ⟨hread field.2 e.2 hdistinct.1 he.2, ih hdistinct.2⟩

/-- **An object is read as a dictionary** field by field, in the order of its fields. -/
theorem dict_ofJson_eq_ok_iff {read : Nat → Node → Except Nat α} {v : Json} (h : v.Distinct)
    {room : Nat} {d : Dict String α} :
    (ofJson v).dict room read = .ok d ↔ ∃ fields, v = .object fields ∧ room ≠ 0 ∧
      List.Forall₂ (IsReadAs (read (room - 1))) fields d.entries := by
  cases v with
  | object fields =>
    rw [ofJson, dict]
    by_cases hroom : room = 0
    · simp [hroom]
    · rw [if_neg hroom, map_eq_ok_iff]
      simp only [entries_ofJson_eq_ok_iff, Json.object.injEq, exists_eq_left', ne_eq, hroom,
        not_false_eq_true, true_and]
      constructor
      · rintro ⟨l, hl, rfl⟩
        rwa [Dict.entries_ofList_of_nodup (map_fst_of_isReadAs hl ▸ h.1)]
      · intro hd
        exact ⟨d.entries, hd, Dict.ext_entries (Dict.entries_ofList_of_nodup d.nodup)⟩
  | _ => simp [ofJson, dict]

/-- **The values of a dictionary** are what the values of an object are read as. -/
theorem forall_of_dict_eq_ok {read : Nat → Node → Except Nat α} {P : α → Prop} {v : Json}
    (h : v.Distinct) {room : Nat} {d : Dict String α} (hd : (ofJson v).dict room read = .ok d)
    (hread : ∀ (w : Json) x room, w.Distinct → read room (ofJson w) = .ok x → P x) :
    ∀ e ∈ d.entries, P e.2 := by
  obtain ⟨fields, rfl, -, hfields⟩ := (dict_ofJson_eq_ok_iff h).1 hd
  exact forall_of_isReadAs hfields h.2 fun w x => hread w x (room - 1)

/-- **A dictionary is read back** if its values are. -/
theorem dict_ofDict_eq_ok {read : Nat → Node → Except Nat α} {write : α → Json}
    {d : Dict String α} (hdistinct : ∀ e ∈ d.entries, (write e.2).Distinct)
    (hread : ∀ e ∈ d.entries, ∀ room, (write e.2).depth ≤ room →
      read room (ofJson (write e.2)) = .ok e.2)
    {room : Nat} (hroom : (ofDict (d.map write)).depth ≤ room) :
    (ofJson (ofDict (d.map write))).dict room read = .ok d := by
  have h : (ofDict (d.map write)).Distinct := by
    rw [distinct_ofDict_iff]
    exact List.forall_mem_map.2 hdistinct
  rw [ofDict, depth] at hroom
  refine (dict_ofJson_eq_ok_iff h).2 ⟨_, rfl, by omega, ?_⟩
  refine List.forall₂_map_left_iff.2 (List.forall₂_same.2 fun e he => ⟨rfl, hread e he _ ?_⟩)
  have hdepth : (write e.2).depth ≤ depthOfFields (d.map write).entries :=
    depth_le_of_mem_fields (List.mem_map_of_mem (f := fun e => (e.1, write e.2)) he)
  omega

end Node
end Json
end Pagewright
