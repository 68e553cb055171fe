/-
# Letters of ASCII and kebab-case

The letters of ASCII are told apart by their order, as the letters of the standard library are.
Kebab-case puts capitals into lower case, with a dash in front of some, so it makes no name shorter,
and it keeps exactly the names without capitals (`kebabCase_eq_self_iff`).
-/

import Pagewright.Naming

namespace Pagewright
namespace Naming

variable {s : List Char}

/-! ## Letters -/

theorem isAsciiLower_eq_isLower (c : Char) : isAsciiLower c = c.isLower := rfl

theorem isAsciiUpper_eq_isUpper (c : Char) : isAsciiUpper c = c.isUpper :=
  (Bool.decide_and ('A' ≤ c) (c ≤ 'Z')).symm

/-- The letters of ASCII are those of the standard library. -/
theorem isAsciiLetter_eq_isAlpha (c : Char) : isAsciiLetter c = c.isAlpha := by
  rw [isAsciiLetter, isAsciiLower_eq_isLower, isAsciiUpper_eq_isUpper]
  exact Bool.or_comm _ _

theorem isAsciiDigit_eq_isDigit (c : Char) : isAsciiDigit c = c.isDigit := rfl

theorem isAsciiUpper_iff {c : Char} : isAsciiUpper c ↔ 'A' ≤ c ∧ c ≤ 'Z' := by
  rw [isAsciiUpper, Bool.and_eq_true, decide_eq_true_eq, decide_eq_true_eq]

theorem isAsciiLower_iff {c : Char} : isAsciiLower c ↔ 'a' ≤ c ∧ c ≤ 'z' := by
  rw [isAsciiLower, Bool.and_eq_true, decide_eq_true_eq, decide_eq_true_eq]

theorem isAsciiLower_iff_toNat {c : Char} : isAsciiLower c ↔ 97 ≤ c.toNat ∧ c.toNat ≤ 122 :=
  isAsciiLower_iff

theorem isAsciiUpper_iff_toNat {c : Char} : isAsciiUpper c ↔ 65 ≤ c.toNat ∧ c.toNat ≤ 90 :=
  isAsciiUpper_iff

/-- The digits by their codes. -/
theorem isAsciiDigit_iff_toNat {c : Char} : isAsciiDigit c ↔ 48 ≤ c.toNat ∧ c.toNat ≤ 57 := by
  rw [isAsciiDigit, Bool.and_eq_true, decide_eq_true_eq, decide_eq_true_eq]
  rfl

/-- **Where letters and digits lie** in ASCII. -/
theorem range_of_isAsciiAlphanumeric {c : Char} (h : isAsciiAlphanumeric c) :
    48 ≤ c.toNat ∧ c.toNat ≤ 122 := by
  rw [isAsciiAlphanumeric, isAsciiLetter, Bool.or_eq_true, Bool.or_eq_true, isAsciiLower_iff_toNat,
    isAsciiUpper_iff_toNat, isAsciiDigit_iff_toNat] at h
  omega

/-- A directory name is made of small letters, digits, underscores and hyphens. -/
theorem isDirectoryChar_iff {c : Char} :
    isDirectoryChar c ↔ isAsciiLower c ∨ isAsciiDigit c ∨ c = '_' ∨ c = '-' := by
  simp only [isDirectoryChar, Bool.or_eq_true, beq_iff_eq, or_assoc]

/-- A character is its own small letter exactly if it is no capital. -/
theorem toLower_eq_self_iff (c : Char) : c.toLower = c ↔ ¬ isAsciiUpper c := by
  rw [isAsciiUpper_iff]
  constructor
  · intro h hupper
    -- the small letter has another code
    have hlower : c.toLower.val = c.val + ('a'.val - 'A'.val) := congrArg Char.val (dif_pos hupper)
    rw [h] at hlower
    exact absurd (UInt32.add_eq_left.1 hlower.symm) (by decide)
  · exact fun hother => dif_neg hother

/-! ## Kebab-case -/

/-- A hyphen goes before a capital that follows a small letter or a digit. -/
theorem kebabAfter_cons (previous : Option Char) (c : Char) (s : List Char) :
    kebabAfter previous (c :: s) =
      (if isAsciiUpper c && previous.any fun p => isAsciiLower p || isAsciiDigit p then ['-']
        else []) ++ c.toLower :: kebabAfter (some c) s := rfl

/-- A capital behind a small letter or a digit gets a hyphen. -/
theorem kebabAfter_cons_capital {p c : Char} (hc : isAsciiUpper c)
    (hp : isAsciiLower p ∨ isAsciiDigit p) (s : List Char) :
    kebabAfter (some p) (c :: s) = '-' :: c.toLower :: kebabAfter (some c) s := by
  have hdash : isAsciiUpper c && (some p).any fun p => isAsciiLower p || isAsciiDigit p := by
    rw [Bool.and_eq_true, Option.any_some, Bool.or_eq_true]
    exact ⟨hc, hp⟩
  rw [kebabAfter_cons, if_pos hdash, List.singleton_append]

/-- A character that is no capital stays. -/
theorem kebabAfter_cons_of_not_capital {c : Char} (h : ¬ isAsciiUpper c) (previous : Option Char)
    (s : List Char) : kebabAfter previous (c :: s) = c :: kebabAfter (some c) s := by
  have hdash : ¬ (isAsciiUpper c && previous.any fun p => isAsciiLower p || isAsciiDigit p) :=
    fun hd => h (Bool.and_eq_true_iff.1 hd).1
  rw [kebabAfter_cons, if_neg hdash, List.nil_append, (toLower_eq_self_iff c).2 h]

/-- Nothing is lost in kebab-case. -/
theorem length_le_kebabAfter (previous : Option Char) (s : List Char) :
    s.length ≤ (kebabAfter previous s).length := by
  induction s generalizing previous with
  | nil => exact Nat.le_refl 0
  | cons c s ih =>
    rw [kebabAfter_cons, List.length_append, List.length_cons, List.length_cons]
    have := ih (some c)
    omega

/-- **Kebab-case makes no name shorter.** -/
theorem length_le_kebabCase (s : String) : s.length ≤ (kebabCase s).length := by
  rw [kebabCase, String.length_ofList, ← String.length_toList]
  exact length_le_kebabAfter none s.toList

/-- A text is in kebab-case exactly if it has no capital. -/
theorem kebabAfter_eq_self_iff (previous : Option Char) (s : List Char) :
    kebabAfter previous s = s ↔ ∀ c ∈ s, ¬ isAsciiUpper c := by
  induction s generalizing previous with
  | nil => exact iff_of_true rfl (List.forall_mem_nil _)
  | cons c s ih =>
    rw [List.forall_mem_cons]
    by_cases hupper : isAsciiUpper c
    · refine iff_of_false (fun h => ?_) fun h => h.1 hupper
      rw [kebabAfter_cons] at h
      split at h
      · -- with a dash the name is longer
        have hlength := congrArg List.length h
        have := length_le_kebabAfter (some c) s
        simp only [List.length_append, List.length_cons, List.length_nil] at hlength
        omega
      · exact (toLower_eq_self_iff c).1 (List.cons.inj h).1 hupper
    · rw [kebabAfter_cons_of_not_capital hupper, List.cons.injEq, ih]
      exact and_congr_left fun _ => iff_of_true rfl hupper

/-- **Kebab-case keeps a name** exactly if it has no capitals. -/
theorem kebabCase_eq_self_iff (s : String) :
    kebabCase s = s ↔ ∀ c ∈ s.toList, ¬ isAsciiUpper c := by
  rw [← kebabAfter_eq_self_iff none, kebabCase, ← String.toList_inj, String.toList_ofList]

end Naming
end Pagewright
