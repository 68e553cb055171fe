/-
# The rules of a registry with a manifest

Registering the declared components of a manifest registers one mapping for each of
them. Their types are distinct, so no declaration touches the rules of another, and a
lookup gives the declared rule, or else the one from before
(`customRule?_foldl_declared`). In a registry that had no custom mappings this is the
built-in rule (`get?_registerManifest`).
-/

import Pagewright.Proofs.Registry.History

namespace Pagewright
namespace Registry

open Mapping (Declaration)

variable {type : String} {p : Platform}

/-- **Declarations one after the other:** with distinct types, the rules of a declared type
are put in front of those it had, or in place of them. -/
theorem customRule?_foldl_declared {entries : List (String × Declaration)}
    (h : (entries.map Prod.fst).Nodup) (r : Registry) :
    (entries.foldl (fun r e => r.register [e.2.toMapping e.1] e.2.override) r).customRule? type p =
      match entries.lookup type with
      | some d => (d.rules.get? p).or (if d.override then none else r.customRule? type p)
      | none => r.customRule? type p := by
  induction entries generalizing r with
  | nil => rfl
  | cons e entries ih =>
    obtain ⟨t, d⟩ := e
    rw [List.map_cons, List.nodup_cons] at h
    have hone : (r.register [d.toMapping t] d.override).customRule? type p =
        if type = t then (d.rules.get? p).or (if d.override then none else r.customRule? type p)
        else r.customRule? type p :=
      customRule?_registerOne r (d.toMapping t) d.override type p
    rw [List.foldl_cons, ih h.2, hone, List.lookup_cons]
    by_cases ht : type = t
    · subst ht
      have hl : entries.lookup type = none := Option.not_isSome_iff_eq_none.1 fun hs =>
        h.1 (Dict.lookup_isSome_iff.1 hs)
      simp [hl]
    · have hb : (type == t) = false := by simpa using ht
      simp only [hb, if_neg ht]

/-- A manifest leaves the built-in rules. -/
theorem builtins_registerManifest (r : Registry) (m : Manifest) :
    (r.registerManifest m).builtins = r.builtins := by
  change (r.perform (.registerManifest m)).builtins = r.builtins
  rw [perform_eq_replay, builtins_replay]

/-- **A lookup after a manifest** gives the declared rule, or else the one from before. -/
theorem get?_registerManifest {r : Registry} (hr : r.custom = ∅) (m : Manifest) :
    (r.registerManifest m).get? type p =
      ((m.components.get? type).bind (·.rules.get? p)).or (r.get? type p) := by
  have hn : r.customRule? type p = none := by rw [customRule?, hr]; rfl
  have hc : (r.registerManifest m).customRule? type p =
      (m.components.get? type).bind (·.rules.get? p) := by
    change (m.components.entries.foldl _ r).customRule? type p = _
    rw [customRule?_foldl_declared m.components.nodup, hn, ← Dict.get?]
    cases m.components.get? type with
    | none => rfl
    | some d => simp
  have hg : r.get? type p = (r.builtins.get? type).bind (·.rule? p) := by
    change (r.customRule? type p).or _ = _
    rw [hn, Option.none_or]
  change ((r.registerManifest m).customRule? type p).or _ = _
  rw [hc, hg, builtins_registerManifest]

/-- A rule of a registry with a manifest is declared or standard. -/
theorem declared_or_standard {m : Manifest} {rule : Mapping.Rule}
    (h : (standard.registerManifest m).get? type p = some rule) :
    (∃ d, m.components.get? type = some d ∧ d.rules.get? p = some rule) ∨
      standard.get? type p = some rule := by
  rw [get?_registerManifest rfl, Option.or_eq_some_iff] at h
  exact h.imp Option.bind_eq_some_iff.1 And.right

/-- What holds of every rule in the standard table holds of what is found in it. -/
theorem of_standard {P : Platform × Mapping.Rule → Prop}
    (hall : ∀ e ∈ standard.builtins.entries, ∀ f ∈ e.2.rules.entries, P f) {rule : Mapping.Rule}
    (h : standard.get? type p = some rule) : P (p, rule) := by
  change ((standard.builtins.get? type).bind (·.rule? p)) = some rule at h
  obtain ⟨m, hm, hrule⟩ := Option.bind_eq_some_iff.1 h
  exact hall (type, m) (Dict.get?_eq_some_iff.1 hm) (p, rule) (Dict.get?_eq_some_iff.1 hrule)

/-- **The standard rules** import exactly the tags that begin with a capital. -/
theorem isCapitalized_of_standard {rule : Mapping.Rule} (h : standard.get? type p = some rule) :
    Manifest.isCapitalized rule.tag ↔ rule.isIntrinsic = false := by
  have hall : ∀ e ∈ standard.builtins.entries, ∀ f ∈ e.2.rules.entries,
      (Manifest.isCapitalized f.2.tag ↔ f.2.isIntrinsic = false) := by
    decide
  exact of_standard hall h

end Registry
end Pagewright
