/-
# What becomes of a style map

Adapting a style map is one pass over its entries (`adaptPass_eq`): a supported attribute is written
under its name on the platform, and each other one leaves a warning. The warnings are complete, but
the written entries need not be:

| the style map has | its entry on the platform |
| --- | --- |
| only the old name or only the new one | the result for it |
| both, the old one first | at the place of the old one, with the value of the new one |
| both, the new one first | at the place of the new one, with the value of the old one |

So nothing is lost exactly if no attribute is authored under both of its names (`adapt_keeps_iff`).
Where it is, one of the two entries is gone without a warning.
-/

import Pagewright.Proofs.Generation.Reports
import Mathlib.Data.List.Nodup

namespace Pagewright
namespace Style

variable {p : Platform} {styles : Dict String Json}

/-! ## Names -/

/-- **The table of names:** an attribute and its new name differ, are both supported and both hold
colours or both do not, and the new one is kept. -/
theorem renames_spec (p : Platform) : ∀ e ∈ renames p,
    rename p e.1 = e.2 ∧ rename p e.2 = e.2 ∧ e.1 ≠ e.2 ∧
      isSupported p e.1 ∧ isSupported p e.2 ∧ isColor e.2 = isColor e.1 := by
  -- mini programs share one table, and no other platform has one
  have hmini : ∀ e ∈ renames .weapp,
      rename .weapp e.1 = e.2 ∧ rename .weapp e.2 = e.2 ∧ e.1 ≠ e.2 ∧
        isSupported .weapp e.1 ∧ isSupported .weapp e.2 ∧ isColor e.2 = isColor e.1 := by
    decide +kernel
  cases p
  case h5 | rn => exact List.forall_mem_nil _
  all_goals exact hmini

/-- No two attributes get one new name. -/
theorem renames_injective (p : Platform) :
    ∀ e ∈ renames p, ∀ e' ∈ renames p, e.2 = e'.2 → e = e' := by
  cases p <;> decide +kernel

/-- An attribute keeps its name or has a new one in the table. -/
theorem rename_eq_or_mem (p : Platform) (key : String) :
    rename p key = key ∨ (key, rename p key) ∈ renames p := by
  cases hlookup : (renames p).lookup key with
  | none => exact .inl (by rw [rename, hlookup, Option.getD_none])
  | some name =>
    obtain ⟨before, after, hsplit, -⟩ := List.lookup_eq_some_iff.1 hlookup
    have hname : rename p key = name := by rw [rename, hlookup, Option.getD_some]
    exact .inr (by simp [hname, hsplit])

/-! ## One pass -/

/-- What a pass does with an entry: the map so far and the warnings so far. -/
def adaptStep (p : Platform) (state : Dict String Json × List Diagnostic) (e : String × Json) :
    Dict String Json × List Diagnostic :=
  match transform? p e.1 e.2 with
  | some (name, v) => (state.1.insert name v, state.2)
  | none => (state.1, state.2 ++ [dropped p e.1])

/-- A pass over the entries of a style map. -/
def adaptPass (p : Platform) (styles : Dict String Json) : Dict String Json × List Diagnostic :=
  styles.entries.foldl (adaptStep p) (∅, [])

/-- The results for the supported entries, in order. -/
def results (p : Platform) (entries : List (String × Json)) : List (String × Json) :=
  (entries.filter fun e => isSupported p e.1).map fun e =>
    (rename p e.1, transformValue p e.1 e.2)

/-- A supported entry has a result. -/
theorem results_cons_of_supported {e : String × Json} (h : isSupported p e.1)
    (entries : List (String × Json)) :
    results p (e :: entries) =
      (rename p e.1, transformValue p e.1 e.2) :: results p entries := by
  simp [results, h]

/-- An entry that is not supported has none. -/
theorem results_cons_of_not_supported {e : String × Json} (h : ¬ isSupported p e.1)
    (entries : List (String × Json)) : results p (e :: entries) = results p entries := by
  simp [results, h]

/-- The results are what is left of the entries. -/
theorem filterMap_transform? (p : Platform) (entries : List (String × Json)) :
    (entries.filterMap fun e => transform? p e.1 e.2) = results p entries := by
  induction entries with
  | nil => rfl
  | cons e entries ih =>
    by_cases h : isSupported p e.1
    · rw [results_cons_of_supported h, ← ih]
      exact List.filterMap_cons_some (if_pos h)
    · rw [results_cons_of_not_supported h, ← ih]
      exact List.filterMap_cons_none (if_neg h)

/-- **A run of the pass:** the results are inserted one after the other, and each entry that is not
supported adds its warning behind the others. -/
theorem foldl_adaptStep (entries : List (String × Json)) (d : Dict String Json)
    (found : List Diagnostic) :
    entries.foldl (adaptStep p) (d, found) =
      (d.insertAll (results p entries),
        found ++
          ((entries.map Prod.fst).filter fun key => !isSupported p key).map (dropped p)) := by
  induction entries generalizing d found with
  | nil => exact congrArg (Prod.mk d) (List.append_nil found).symm
  | cons e entries ih =>
    rw [List.foldl_cons, List.map_cons]
    by_cases h : isSupported p e.1
    · have hstep : adaptStep p (d, found) e =
          (d.insert (rename p e.1) (transformValue p e.1 e.2), found) := by
        rw [adaptStep, transform?, if_pos h]
      rw [hstep, ih, results_cons_of_supported h, List.filter_cons_of_neg (by simp [h])]
      rfl
    · have hstep : adaptStep p (d, found) e = (d, found ++ [dropped p e.1]) := by
        rw [adaptStep, transform?, if_neg h]
      rw [hstep, ih, results_cons_of_not_supported h, List.filter_cons_of_pos (by simp [h]),
        List.map_cons, List.append_assoc, List.singleton_append]

/-- **The pass** makes the adapted style map and the warnings. -/
theorem adaptPass_eq (p : Platform) (styles : Dict String Json) :
    adaptPass p styles = (adapt p styles, droppedIn p styles) := by
  rw [adaptPass, foldl_adaptStep, adapt, droppedIn, filterMap_transform?]
  rfl

/-! ## Lost entries -/

/-- Whether an attribute is authored under both of its names. -/
def NamedTwice (p : Platform) (styles : Dict String Json) : Prop :=
  ∃ e ∈ renames p, e.1 ∈ styles.keys ∧ e.2 ∈ styles.keys

/-- The names of the results are the new ones of the supported attributes. -/
theorem map_fst_results (p : Platform) (styles : Dict String Json) :
    (results p styles.entries).map Prod.fst =
      (styles.keys.filter (isSupported p)).map (rename p) := by
  rw [results, List.map_map, Dict.keys, List.filter_map, List.map_map]
  rfl

/-- Two attributes of one style map that get one name are an old and a new one. -/
theorem namedTwice_of_rename_eq {a b : String} (ha : a ∈ styles.keys) (hb : b ∈ styles.keys)
    (hne : a ≠ b) (h : rename p a = rename p b) : NamedTwice p styles := by
  rcases rename_eq_or_mem p a with haself | ha' <;> rcases rename_eq_or_mem p b with hbself | hb'
  · exact absurd (haself.symm.trans (h.trans hbself)) hne
  · rw [← h, haself] at hb'
    exact ⟨_, hb', hb, ha⟩
  · rw [h, hbself] at ha'
    exact ⟨_, ha', ha, hb⟩
  · exact absurd (congrArg Prod.fst (renames_injective p _ ha' _ hb' h)) hne

/-- **Names stay distinct** exactly if no attribute is authored under both of its names. -/
theorem nodup_results_iff :
    ((results p styles.entries).map Prod.fst).Nodup ↔ ¬ NamedTwice p styles := by
  rw [map_fst_results]
  constructor
  · rintro h ⟨e, he, hold, hnew⟩
    obtain ⟨hrename, hkept, hne, hsupported, hsupported', -⟩ := renames_spec p e he
    have hinjective := List.inj_on_of_nodup_map h
    refine hne (hinjective (List.mem_filter.2 ⟨hold, hsupported⟩)
      (List.mem_filter.2 ⟨hnew, hsupported'⟩) ?_)
    rw [hrename, hkept]
  · intro h
    refine List.Nodup.map_on (fun a ha b hb heq => ?_) (styles.nodup_keys.filter _)
    by_contra hne
    exact h (namedTwice_of_rename_eq (List.mem_filter.1 ha).1 (List.mem_filter.1 hb).1 hne heq)

/-- **What a style map keeps.** A pass leaves one warning for each attribute that is not supported,
in order, which names the attribute and the platform. The names on the platform are those of the
results by first occurrence, and each has the value of the last result with it. So the entries are
the results for the supported entries, one for each and in order, exactly if no attribute is
authored under both of its names. -/
theorem adapt_keeps_iff (p : Platform) (styles : Dict String Json) :
    adaptPass p styles = (adapt p styles,
        (styles.keys.filter fun key => !isSupported p key).map fun key =>
          ⟨.warning, "style", "style property '" ++ key ++ "' is not supported on " ++
            p.displayName ++ " and was dropped", none⟩) ∧
      (adapt p styles).keys = ((results p styles.entries).map Prod.fst).eraseDups ∧
      (∀ name, (adapt p styles).get? name = (results p styles.entries).reverse.lookup name) ∧
      ((adapt p styles).entries = results p styles.entries ↔ ¬ NamedTwice p styles) := by
  have hadapt : adapt p styles = .ofList (results p styles.entries) := by
    rw [adapt, filterMap_transform?]
  refine ⟨adaptPass_eq p styles, ?_, fun name => ?_, ?_⟩
  · rw [hadapt, Dict.keys_ofList]
  · rw [hadapt, Dict.get?_ofList]
  · rw [← nodup_results_iff]
    constructor
    · intro h
      rw [← h]
      exact (adapt p styles).nodup
    · intro h
      rw [hadapt, Dict.entries_ofList_of_nodup h]

/-- A background under its old name and, behind it, under its new one. -/
def twoBackgrounds : Dict String Json :=
  .ofList [("backgroundColor", .string "red"), ("background-color", .string "blue")]

/-- **An entry is lost without a warning:** for a mini program, of two backgrounds one is left. -/
theorem adapt_twoBackgrounds :
    (results .weapp twoBackgrounds.entries =
        [("background-color", .string "red"), ("background-color", .string "blue")] ∧
      (adapt .weapp twoBackgrounds).entries = [("background-color", .string "blue")] ∧
      droppedIn .weapp twoBackgrounds = []) ∧
    ¬ (adapt .weapp twoBackgrounds).entries = results .weapp twoBackgrounds.entries := by
  decide +kernel

end Style
end Pagewright
