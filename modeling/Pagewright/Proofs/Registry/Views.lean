/-
# The views of a registry

A registry can be asked for one rule, for the merged mapping of a type, for the types it
knows, for all merged mappings and for the types that lack a rule. The first two answer
differently, one by a lookup in two tables, the other by a merge, and give the same rule
(`get?_eq_resolved?`). The others list types by the keys of the tables and read names off
the mappings, so they agree with the first two as long as every mapping stands under its
own type (`Keyed`), which every event keeps (`Keyed.happen`).

| view | what it lists |
| --- | --- |
| the types | those of the built-in table, then the other registered ones |
| the merged mappings | one for each of the types |
| the incomplete types | those of the types without a rule for some platform |

Types stand where they occur first: in the built-in table, and in the history since the
custom table was last cleared (`keys_replay`). All views agree after any operations
(`run_views`).
-/

import Pagewright.Proofs.Registry.History
import Mathlib.Data.List.DropRight

namespace Pagewright
namespace Registry

/-! ## One type -/

/-- **Lookup and merge agree,** in every registry. -/
theorem get?_eq_resolved? (r : Registry) (type : String) (p : Platform) :
    r.get? type p = (r.resolved? type).bind (·.rule? p) := by
  unfold get? resolved?
  cases r.builtins.get? type with
  | none => cases r.custom.get? type <;> simp
  | some builtin => cases r.custom.get? type <;> simp

/-- A type has a merged mapping exactly if it is in one of the tables. -/
theorem isSome_resolved?_iff {r : Registry} {type : String} :
    (r.resolved? type).isSome ↔ type ∈ r.builtins.keys ∨ type ∈ r.custom.keys := by
  rw [← Dict.contains_iff, ← Dict.contains_iff, Dict.contains, Dict.contains, resolved?]
  cases r.builtins.get? type <;> cases r.custom.get? type <;> simp

/-! ## The known types -/

/-- The types are those with a merged mapping. -/
theorem mem_types_iff {r : Registry} {type : String} :
    type ∈ r.types ↔ (r.resolved? type).isSome := by
  rw [isSome_resolved?_iff, types, List.mem_append, List.mem_filter, Bool.not_eq_true',
    ← Bool.not_eq_true, Dict.contains_iff]
  by_cases h : type ∈ r.builtins.keys <;> simp [h]

/-- **No type is listed twice:** a custom type is listed only if it is not built in. -/
theorem nodup_types (r : Registry) : r.types.Nodup := by
  refine List.nodup_append.2 ⟨r.builtins.nodup_keys, r.custom.nodup_keys.filter _, ?_⟩
  rintro type hb _ hc rfl
  have hnot := (List.mem_filter.1 hc).2
  rw [Bool.not_eq_true', ← Bool.not_eq_true, Dict.contains_iff] at hnot
  exact hnot hb

/-- The type of the mapping that an event registers. -/
def Event.type? : Event → Option String
  | .registered m _ => some m.type
  | .cleared => none

/-- The types registered since the custom table was last cleared, each where it was
registered first. -/
def liveTypes (history : List Event) : List String :=
  ((history.rtakeWhile fun e => e.type?.isSome).filterMap Event.type?).eraseDups

/-- **One event:** the registered type goes behind the others, and a clearing leaves none. -/
theorem keys_happen {r : Registry} {h : List Event} (hr : r.custom.keys = liveTypes h)
    (e : Event) : (r.happen e).custom.keys = liveTypes (h ++ [e]) := by
  cases e with
  | registered m override =>
    rw [liveTypes, List.rtakeWhile_concat_pos _ _ _ rfl, List.filterMap_append]
    exact Dict.keys_insert_eraseDups hr m.type _
  | cleared =>
    rw [liveTypes, List.rtakeWhile_concat_neg _ _ _ Bool.false_ne_true]
    rfl

/-- **A whole history:** the custom table has the types registered since it was cleared. -/
theorem keys_replay {r : Registry} (hr : r.custom = ∅) (h : List Event) :
    (r.replay h).custom.keys = liveTypes h := by
  -- along the history, its last event taken off
  induction h using List.reverseRecOn with
  | nil =>
    rw [replay, List.foldl_nil, hr]
    rfl
  | append_singleton h e ih =>
    rw [replay_append]
    exact keys_happen ih e

/-- The built-in types stand in the order of their table. -/
theorem keys_withBuiltins (table : List Mapping) :
    (withBuiltins table).builtins.keys = (table.map (·.type)).eraseDups := by
  rw [withBuiltins, Dict.keys_ofList, List.map_map]
  rfl

/-! ## Mappings under their types -/

/-- Every mapping of a table stands under its own type. -/
def KeyedTable (table : Dict String Mapping) : Prop :=
  ∀ type m, table.get? type = some m → m.type = type

/-- Every mapping of a registry stands under its own type. -/
structure Keyed (r : Registry) : Prop where
  builtins : KeyedTable r.builtins
  custom : KeyedTable r.custom

/-- A mapping that is put under its type keeps a table keyed. -/
theorem KeyedTable.insert {table : Dict String Mapping} (h : KeyedTable table) {type : String}
    {m : Mapping} (hm : m.type = type) : KeyedTable (table.insert type m) := by
  intro type' m' hget
  rw [Dict.get?_insert] at hget
  split at hget
  · next ht =>
    obtain rfl := Option.some.inj hget
    rw [hm, ht]
  · exact h type' m' hget

/-- Mappings that are inserted under their types stand under their types. -/
theorem KeyedTable.insertAll {table : Dict String Mapping} (h : KeyedTable table)
    (mappings : List Mapping) :
    KeyedTable (table.insertAll (mappings.map fun m => (m.type, m))) := by
  induction mappings generalizing table with
  | nil => exact h
  | cons m mappings ih => exact ih (h.insert rfl)

theorem keyedTable_empty : KeyedTable ∅ := fun _ _ h => by cases h

/-- The mappings of a new registry stand under their types. -/
theorem keyed_withBuiltins (table : List Mapping) : (withBuiltins table).Keyed :=
  ⟨keyedTable_empty.insertAll table, keyedTable_empty⟩

/-- **Every event keeps the tables keyed:** a merge keeps the type that the mappings share. -/
theorem Keyed.happen {r : Registry} (h : r.Keyed) (e : Event) : (r.happen e).Keyed := by
  cases e with
  | registered m override =>
    refine ⟨h.builtins, h.custom.insert ?_⟩
    cases hget : r.custom.get? m.type with
    | none => rfl
    | some existing =>
      cases override with
      | true => rfl
      | false => exact h.custom m.type existing hget
  | cleared => exact ⟨h.builtins, keyedTable_empty⟩

/-- **A history keeps** every mapping under its type. -/
theorem Keyed.replay {r : Registry} (h : r.Keyed) (history : List Event) :
    (r.replay history).Keyed := by
  induction history generalizing r with
  | nil => exact h
  | cons e history ih => exact ih (h.happen e)

/-- **A merged mapping** carries the type it was asked for. -/
theorem Keyed.type_of_resolved? {r : Registry} (h : r.Keyed) {type : String} {m : Mapping}
    (hm : r.resolved? type = some m) : m.type = type := by
  unfold resolved? at hm
  cases hb : r.builtins.get? type with
  | none =>
    cases hc : r.custom.get? type with
    | none => simp [hb, hc] at hm
    | some custom =>
      simp only [hb, hc, Option.some.injEq] at hm
      exact hm ▸ h.custom type custom hc
  | some builtin =>
    have htype := h.builtins type builtin hb
    cases hc : r.custom.get? type with
    | none =>
      simp only [hb, hc, Option.some.injEq] at hm
      exact hm ▸ htype
    | some custom =>
      simp only [hb, hc, Option.some.injEq] at hm
      exact hm ▸ htype

/-! ## All types -/

/-- A filter that passes every member keeps them all. -/
theorem map_some_filterMap {α : Type u} {β : Type v} {f : α → Option β} {l : List α}
    (h : ∀ a ∈ l, (f a).isSome) : (l.filterMap f).map some = l.map f := by
  induction l with
  | nil => rfl
  | cons a l ih =>
    obtain ⟨ha, hl⟩ := List.forall_mem_cons.1 h
    obtain ⟨b, hb⟩ := Option.isSome_iff_exists.1 ha
    rw [List.filterMap_cons_some hb, List.map_cons, List.map_cons, hb, ih hl]

/-- **One merged mapping for each type,** in order. -/
theorem map_some_allResolved (r : Registry) : r.allResolved.map some = r.types.map r.resolved? :=
  map_some_filterMap fun _ h => mem_types_iff.1 h

/-- The merged mappings are listed in the order of the types. -/
theorem Keyed.map_type_allResolved {r : Registry} (h : r.Keyed) :
    r.allResolved.map (·.type) = r.types := by
  have htype : ∀ type ∈ r.types, (r.resolved? type).map (·.type) = some type := by
    intro type ht
    obtain ⟨m, hm⟩ := Option.isSome_iff_exists.1 (mem_types_iff.1 ht)
    rw [hm, Option.map_some, h.type_of_resolved? hm]
  rw [allResolved, List.map_filterMap, List.filterMap_congr htype, List.filterMap_some]

/-- The platforms for which a type has no rule, in canonical order. -/
def lacking (r : Registry) (type : String) : List Platform :=
  Platform.all.filter fun p => (r.get? type p).isNone

/-- The platforms that a merged mapping is missing are those for which there is no rule. -/
theorem missing_of_resolved? {r : Registry} {type : String} {m : Mapping}
    (hm : r.resolved? type = some m) : m.missing = r.lacking type := by
  refine List.filter_congr fun p _ => ?_
  rw [get?_eq_resolved?, hm, Option.bind_some, Mapping.rule?, Dict.contains, Option.not_isSome]

/-- A type lacks something exactly if it has no rule for some platform. -/
theorem lacking_ne_nil_iff {r : Registry} {type : String} :
    r.lacking type ≠ [] ↔ ∃ p, r.get? type p = none := by
  simp [lacking, Platform.mem_all]

/-- **The incomplete types** are those of the types that lack a rule, each with the platforms
for which it does. -/
theorem Keyed.incomplete_eq {r : Registry} (h : r.Keyed) :
    r.incomplete =
      (r.types.filter fun type => r.lacking type ≠ []).map fun type => (type, r.lacking type) := by
  have hentry : ∀ type ∈ r.types,
      ((r.resolved? type).bind fun m =>
        if m.missing.isEmpty then none else some (m.type, m.missing)) =
        if r.lacking type = [] then none else some (type, r.lacking type) := by
    intro type ht
    obtain ⟨m, hm⟩ := Option.isSome_iff_exists.1 (mem_types_iff.1 ht)
    rw [hm, Option.bind_some, missing_of_resolved? hm, h.type_of_resolved? hm]
    simp only [List.isEmpty_iff]
  rw [incomplete, allResolved, List.filterMap_filterMap, List.filterMap_congr hentry]
  induction r.types with
  | nil => rfl
  | cons type types ih =>
    by_cases hl : r.lacking type = []
    · simpa [hl] using ih
    · simpa [hl] using ih

/-! ## After any operations -/

/-- **All views agree** after any operations. A lookup gives the rule of the merged mapping, and
a type is supported where there is one. The types are listed once, the built-in ones by
first occurrence in their table and then the others by first registration since the last
clearing; they are the types with a merged mapping. There is one merged mapping for each,
in the same order and with the name of the type. The incomplete types are those of them
without a rule for some platform, in the same order, each with these platforms in
canonical order. -/
theorem run_views (table : List Mapping) (ops : List Operation) :
    let r := (withBuiltins table).run ops
    (∀ type p, r.get? type p = (r.resolved? type).bind (·.rule? p)) ∧
      (∀ type p, r.isSupported type p ↔
        ∃ m rule, r.resolved? type = some m ∧ m.rule? p = some rule) ∧
      r.types.Nodup ∧
      r.types = (table.map (·.type)).eraseDups ++
        (liveTypes (history ops)).filter (fun type => type ∉ table.map (·.type)) ∧
      (∀ type, type ∈ r.types ↔ (r.resolved? type).isSome) ∧
      r.allResolved.map some = r.types.map r.resolved? ∧
      r.allResolved.map (·.type) = r.types ∧
      r.incomplete =
        (r.types.filter fun type => ∃ p ∈ Platform.all, r.get? type p = none).map fun type =>
          (type, Platform.all.filter fun p => (r.get? type p).isNone) := by
  intro r
  have hkeyed : r.Keyed := by
    rw [show r = _ from run_eq_replay _ ops]
    exact (keyed_withBuiltins table).replay _
  have hbuiltins : r.builtins.keys = (table.map (·.type)).eraseDups := by
    rw [show r = _ from run_eq_replay _ ops, builtins_replay, keys_withBuiltins]
  have hcustom : r.custom.keys = liveTypes (history ops) := by
    rw [show r = _ from run_eq_replay _ ops]
    exact keys_replay rfl _
  refine ⟨r.get?_eq_resolved?, fun type p => ?_, r.nodup_types, ?_, fun type => mem_types_iff,
    r.map_some_allResolved, hkeyed.map_type_allResolved, ?_⟩
  · rw [isSupported, get?_eq_resolved?, Option.isSome_iff_exists]
    simp only [Option.bind_eq_some_iff]
    exact exists_comm
  · rw [types, hbuiltins, hcustom]
    refine congrArg _ (List.filter_congr fun type _ => ?_)
    rw [Bool.eq_iff_iff, Bool.not_eq_true', ← Bool.not_eq_true, Dict.contains_iff, hbuiltins,
      List.mem_eraseDups, decide_eq_true_iff]
  · rw [hkeyed.incomplete_eq]
    refine congrArg _ (List.filter_congr fun type _ => ?_)
    rw [Bool.eq_iff_iff, decide_eq_true_iff, decide_eq_true_iff, lacking_ne_nil_iff]
    simp only [Platform.mem_all, true_and]

end Registry
end Pagewright
