/-
# The rule that a registry gives after a history

A registry is asked to register mappings, to register a manifest and to forget its
custom mappings, in any order and any number of times. All of it comes down to two
kinds of event, one mapping registered or everything custom cleared; the history of
a registry lists them, the earliest first.

| event | rule of a type on a platform afterwards |
| --- | --- |
| a mapping of the type with a rule for the platform | that rule |
| a mapping of the type without one, overriding | the built-in rule, if any |
| a mapping of the type without one, merged in | as before |
| a mapping of another type | as before |
| a clearing | the built-in rule, if any |

So what counts is the last event that does not leave the type on the platform alone
(`InForce`). The custom table follows the history event by event
(`customRule?_happen`) and therefore along a whole history
(`customRule?_replay`), and the built-in table never changes.
-/

import Pagewright.Manifest.Basic
import Mathlib.Data.List.Induction

namespace Pagewright
namespace Registry

/-- What a registry may be asked to do. -/
inductive Operation where
  | register (mappings : List Mapping) (override : Bool)
  | registerManifest (m : Manifest)
  | clearCustom

/-- A registry after an operation. -/
def perform (r : Registry) : Operation → Registry
  | .register mappings override => r.register mappings override
  | .registerManifest m => r.registerManifest m
  | .clearCustom => r.clearCustom

/-- A registry after operations, one after the other. -/
def run (r : Registry) (ops : List Operation) : Registry := ops.foldl perform r

/-- What happens to the custom table, one mapping at a time. -/
inductive Event where
  | registered (m : Mapping) (override : Bool)
  | cleared

namespace Event

/-- Whether an event leaves the rule of a type on a platform alone: it clears
nothing, and a mapping of the type is merged in without a rule for the platform. -/
def Spares (type : String) (p : Platform) : Event → Prop
  | .registered m override => m.type = type → override = false ∧ m.rule? p = none
  | .cleared => False

end Event

/-- The events of an operation, in order. -/
def Operation.events : Operation → List Event
  | .register mappings override => mappings.map fun m => .registered m override
  | .registerManifest m =>
    m.components.entries.map fun e => .registered (e.2.toMapping e.1) e.2.override
  | .clearCustom => [.cleared]

/-- The events of operations, in order. -/
def history (ops : List Operation) : List Event := ops.flatMap Operation.events

/-- A rule is in force after a history: it is the rule for the platform of a
registered mapping of the type, and every later event spares the type there. That is
the most recent mapping that mentions the platform and is older neither than
the last clearing nor than the last overriding registration of the type. -/
def InForce (history : List Event) (type : String) (p : Platform) (rule : Mapping.Rule) :
    Prop :=
  ∃ before m override after, history = before ++ .registered m override :: after ∧
    m.type = type ∧ m.rule? p = some rule ∧ ∀ e ∈ after, e.Spares type p

/-- The rule of a table of mappings; of two mappings for one type the last counts. -/
def tableRule? (table : List Mapping) (type : String) (p : Platform) : Option Mapping.Rule :=
  (table.reverse.find? fun m => m.type == type).bind (·.rule? p)

/-- The rule that the custom table has. -/
def customRule? (r : Registry) (type : String) (p : Platform) : Option Mapping.Rule :=
  (r.custom.get? type).bind (·.rule? p)

/-- A registry after an event. -/
def happen (r : Registry) : Event → Registry
  | .registered m override => r.registerOne override m
  | .cleared => r.clearCustom

/-- A registry after a history. -/
def replay (r : Registry) (history : List Event) : Registry := history.foldl happen r

/-- Two histories, one after the other, are one history. -/
theorem replay_append (r : Registry) (h h' : List Event) :
    r.replay (h ++ h') = (r.replay h).replay h' :=
  List.foldl_append ..

/-- An operation is nothing but its events. -/
theorem perform_eq_replay (r : Registry) (op : Operation) : r.perform op = r.replay op.events := by
  cases op with
  | register mappings override =>
    rw [perform, Operation.events, replay, List.foldl_map]
    rfl
  | registerManifest m =>
    rw [perform, Operation.events, replay, List.foldl_map]
    rfl
  | clearCustom => rfl

/-- Operations come down to the events of their history. -/
theorem run_eq_replay (r : Registry) (ops : List Operation) :
    r.run ops = r.replay (history ops) := by
  induction ops generalizing r with
  | nil => rfl
  | cons op ops ih =>
    rw [history, List.flatMap_cons, replay_append, ← perform_eq_replay, ← history, ← ih]
    rfl

/-- **One registration:** the rules of other types stay. A mapping of the type puts its
rules in front of those it is merged into, and in place of those it overrides. -/
theorem customRule?_registerOne (r : Registry) (m : Mapping) (override : Bool) (type : String)
    (p : Platform) :
    (r.registerOne override m).customRule? type p =
      if type = m.type then
        (m.rule? p).or (if override then none else r.customRule? type p)
      else r.customRule? type p := by
  unfold customRule? registerOne
  rw [Dict.get?_insert]
  split
  · next h =>
    subst h
    cases hc : r.custom.get? m.type with
    | none => cases override <;> simp
    | some existing => cases override <;> simp
  · rfl

/-- **One event** either spares a type on a platform, whose custom rule then stays, or it
settles the rule: it is the one of the registered mapping, if that has one. -/
theorem customRule?_happen (r : Registry) (e : Event) (type : String) (p : Platform) :
    (e.Spares type p ∧ (r.happen e).customRule? type p = r.customRule? type p) ∨
      ¬ e.Spares type p ∧ ∀ rule, (r.happen e).customRule? type p = some rule ↔
        ∃ m override, e = .registered m override ∧ m.type = type ∧ m.rule? p = some rule := by
  cases e with
  | cleared => exact .inr ⟨id, fun rule => by simp [happen, clearCustom, customRule?]⟩
  | registered m override =>
    rw [happen, customRule?_registerOne]
    by_cases ht : m.type = type
    · subst ht
      cases hm : m.rule? p with
      | some rule => exact .inr ⟨by simp [Event.Spares, hm], fun rule => by simp [hm]⟩
      | none =>
        cases override with
        | true => exact .inr ⟨by simp [Event.Spares], fun rule => by simp [hm]⟩
        | false => exact .inl ⟨by simp [Event.Spares, hm], by simp⟩
    · exact .inl ⟨fun h => absurd h ht, by rw [if_neg (Ne.symm ht)]⟩

/-- What is in force after one event more. -/
theorem inForce_concat {h : List Event} {e : Event} {type : String} {p : Platform}
    {rule : Mapping.Rule} :
    InForce (h ++ [e]) type p rule ↔
      (∃ m override, e = .registered m override ∧ m.type = type ∧ m.rule? p = some rule) ∨
        e.Spares type p ∧ InForce h type p rule := by
  constructor
  · rintro ⟨before, m, override, after, hh, ht, hr, ha⟩
    rcases List.eq_nil_or_concat after with rfl | ⟨init, last, rfl⟩
    · obtain ⟨-, he⟩ := List.append_inj' hh rfl
      exact .inl ⟨m, override, List.singleton_inj.1 he, ht, hr⟩
    · rw [List.concat_eq_append, ← List.cons_append, ← List.append_assoc] at hh
      obtain ⟨hinit, he⟩ := List.append_inj' hh rfl
      rw [List.concat_eq_append, List.forall_mem_append, ← List.singleton_inj.1 he] at ha
      exact .inr ⟨ha.2 e (List.mem_singleton_self e),
        before, m, override, init, hinit, ht, hr, ha.1⟩
  · rintro (⟨m, override, rfl, ht, hr⟩ | ⟨he, before, m, override, after, rfl, ht, hr, ha⟩)
    · exact ⟨h, m, override, [], rfl, ht, hr, by simp⟩
    · refine ⟨before, m, override, after ++ [e], by simp, ht, hr, ?_⟩
      rw [List.forall_mem_append, List.forall_mem_singleton]
      exact ⟨ha, he⟩

/-- **A whole history:** the custom table of a registry that started without custom
mappings has exactly the rules that are in force. -/
theorem customRule?_replay {r : Registry} (hr : r.custom = ∅) (h : List Event) (type : String)
    (p : Platform) (rule : Mapping.Rule) :
    (r.replay h).customRule? type p = some rule ↔ InForce h type p rule := by
  -- along the history, its last event taken off
  induction h using List.reverseRecOn with
  | nil => simp [replay, customRule?, hr, InForce]
  | append_singleton h e ih =>
    rw [inForce_concat, replay_append]
    change ((r.replay h).happen e).customRule? type p = some rule ↔ _
    rcases customRule?_happen (r.replay h) e type p with ⟨he, hs⟩ | ⟨he, hs⟩
    · rw [hs, ih]
      constructor
      · exact fun hf => .inr ⟨he, hf⟩
      · rintro (⟨m, override, rfl, ht, hm⟩ | ⟨-, hf⟩)
        · simp [(he ht).2] at hm
        · exact hf
    · rw [hs]
      exact ⟨.inl, fun hf => hf.resolve_right fun hn => he hn.1⟩

/-- No event changes the built-in rules. -/
theorem builtins_happen (r : Registry) (e : Event) : (r.happen e).builtins = r.builtins := by
  cases e <;> rfl

/-- **No event changes the built-in table.** -/
theorem builtins_replay (r : Registry) (h : List Event) : (r.replay h).builtins = r.builtins := by
  induction h generalizing r with
  | nil => rfl
  | cons e h ih => exact (ih (r.happen e)).trans (builtins_happen r e)

/-- The built-in rules of a new registry are those of its table. -/
theorem builtinRule?_withBuiltins (table : List Mapping) (type : String) (p : Platform) :
    ((withBuiltins table).builtins.get? type).bind (·.rule? p) = tableRule? table type p := by
  have h : ((withBuiltins table).builtins.get? type) =
      table.reverse.find? fun m => m.type == type := by
    rw [withBuiltins, Dict.get?_ofList, ← List.map_reverse]
    induction table.reverse with
    | nil => rfl
    | cons m ms ih =>
      rw [List.map_cons, List.lookup_cons, List.find?_cons, ih, Bool.beq_comm]
  rw [h, tableRule?]

/-- **A lookup after any operations** gives the rule in force after their history, and
where none is in force the rule of the built-in table. The built-in table is
what it was, and without its custom mappings the registry is the new one again. -/
theorem get?_run (table : List Mapping) (ops : List Operation) (type : String) (p : Platform) :
    let r := (withBuiltins table).run ops
    (∀ rule, InForce (history ops) type p rule → r.get? type p = some rule) ∧
      ((∀ rule, ¬ InForce (history ops) type p rule) →
        r.get? type p = tableRule? table type p) ∧
      r.builtins = (withBuiltins table).builtins ∧
      r.clearCustom = withBuiltins table := by
  intro r
  have hc : ∀ rule, r.customRule? type p = some rule ↔ InForce (history ops) type p rule := by
    intro rule
    rw [← customRule?_replay (r := withBuiltins table) rfl, ← run_eq_replay]
  have hb : r.builtins = (withBuiltins table).builtins := by
    rw [← builtins_replay (withBuiltins table) (history ops), ← run_eq_replay]
  have hg : r.get? type p = (r.customRule? type p).or (tableRule? table type p) := by
    rw [← builtinRule?_withBuiltins, ← hb]
    rfl
  refine ⟨fun rule h => ?_, fun h => ?_, hb, ?_⟩
  · rw [hg, (hc rule).2 h, Option.some_or]
  · have hn : r.customRule? type p = none :=
      Option.eq_none_iff_forall_not_mem.2 fun rule hm => h rule ((hc rule).1 hm)
    rw [hg, hn, Option.none_or]
  · rw [clearCustom, hb]
    rfl

end Registry
end Pagewright
