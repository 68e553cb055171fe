/-
# Computations that may fail

Checks and readers give a result or the cause of a failure, and one run after the other
stops at the first that fails. So a sequence of checks passes if each check passes
(`forM_eq_ok_iff`), a list is read if each member is (`exists_mapM_iff`), member for
member (`mapM_eq_ok_iff`), and otherwise the failure is that of the first member that
fails (`mapM_eq_error_iff`).
-/

import Mathlib.Data.List.Forall2

namespace Pagewright

variable {α : Type u} {β : Type v} {ε : Type w} {l : List α}

/-- Two checks pass exactly if each of them passes. -/
theorem bind_eq_ok_iff {x : Except ε Unit} {f : Unit → Except ε Unit} :
    (x >>= f) = .ok () ↔ x = .ok () ∧ f () = .ok () := by
  cases x <;> simp [bind, Except.bind]

/-- Two checks fail with the failure of the first one that fails. -/
theorem bind_eq_error_iff {x : Except ε Unit} {f : Unit → Except ε Unit} {e : ε} :
    (x >>= f) = .error e ↔ x = .error e ∨ x = .ok () ∧ f () = .error e := by
  cases x <;> simp [bind, Except.bind]

/-- A check of all members passes exactly if it passes for each. -/
theorem forM_eq_ok_iff {f : α → Except ε Unit} : l.forM f = .ok () ↔ ∀ a ∈ l, f a = .ok () := by
  rw [List.forM_eq_forM]
  induction l with
  | nil => simp [pure, Except.pure]
  | cons a l ih => rw [List.forM_cons, bind_eq_ok_iff, ih, List.forall_mem_cons]

/-- The failure of a sequence of checks is that of one of them. -/
theorem exists_of_forM_eq_error {f : α → Except ε Unit} {e : ε} (h : l.forM f = .error e) :
    ∃ a ∈ l, f a = .error e := by
  rw [List.forM_eq_forM] at h
  induction l with
  | nil => simp [pure, Except.pure] at h
  | cons a l ih =>
    rw [List.forM_cons, bind_eq_error_iff] at h
    rcases h with h | ⟨-, h⟩
    · exact ⟨a, .head _, h⟩
    · obtain ⟨b, hb, hfail⟩ := ih h
      exact ⟨b, .tail _ hb, hfail⟩

/-- A result of two steps is one of the second on a result of the first. -/
theorem bind_eq_ok {β : Type u} {x : Except ε α} {f : α → Except ε β} {b : β} :
    (x >>= f) = .ok b ↔ ∃ a, x = .ok a ∧ f a = .ok b := by
  cases x <;> simp [bind, Except.bind]

/-- A mapped result comes from a result. -/
theorem map_eq_ok_iff {x : Except ε α} {f : α → β} {b : β} :
    x.map f = .ok b ↔ ∃ a, x = .ok a ∧ f a = b := by
  cases x <;> simp [Except.map]

theorem toOption_eq_some_iff {x : Except ε α} {a : α} : x.toOption = some a ↔ x = .ok a := by
  cases x <;> simp [Except.toOption]

/-- A step behind a guard gives a result if the guard lets it run. -/
theorem unless_eq_ok {p : Prop} [Decidable p] {cause : ε} {f : PUnit → Except ε α} {a : α} :
    (if p then (do let r ← (throw cause : Except ε PUnit); f r) else f ⟨⟩) = .ok a ↔
      ¬ p ∧ f ⟨⟩ = .ok a := by
  by_cases h : p <;> simp [h, throw, throwThe, MonadExceptOf.throw, bind, Except.bind]

theorem pure_eq_ok_iff {a b : α} : (pure a : Except ε α) = .ok b ↔ a = b := by
  simp [pure, Except.pure]

variable {f : α → Except ε β}

/-- **One after the other:** the failure of a list is that of its first member that
fails. -/
theorem mapM_eq_error_iff {e : ε} :
    l.mapM f = .error e ↔
      ∃ before x after, l = before ++ x :: after ∧ (∀ y ∈ before, ∃ b, f y = .ok b) ∧
        f x = .error e := by
  induction l with
  | nil => simp [pure, Except.pure]
  | cons a l ih =>
    rw [List.mapM_cons]
    cases ha : f a with
    | error e' =>
      have hbind : (do let b ← Except.error e'; let bs ← l.mapM f; pure (b :: bs) :
          Except ε (List β)) = .error e ↔ e' = e := by
        simp [bind, Except.bind]
      rw [hbind]
      constructor
      · rintro rfl
        exact ⟨[], a, l, rfl, by simp, ha⟩
      · rintro ⟨_ | ⟨y, before⟩, x, after, hl, hb, hx⟩
        · obtain ⟨rfl, rfl⟩ := List.cons.inj hl
          exact Except.error.inj (ha.symm.trans hx)
        · obtain ⟨rfl, -⟩ := List.cons.inj hl
          obtain ⟨b, hy⟩ := hb a (List.mem_cons_self ..)
          exact absurd (ha.symm.trans hy) (by simp)
    | ok b =>
      have hbind : (do let b ← Except.ok b; let bs ← l.mapM f; pure (b :: bs) : Except ε (List β)) =
          .error e ↔ l.mapM f = .error e := by
        cases l.mapM f <;> simp [bind, Except.bind, pure, Except.pure]
      rw [hbind, ih]
      constructor
      · rintro ⟨before, x, after, rfl, hb, hx⟩
        refine ⟨a :: before, x, after, rfl, ?_, hx⟩
        rw [List.forall_mem_cons]
        exact ⟨⟨b, ha⟩, hb⟩
      · rintro ⟨_ | ⟨y, before⟩, x, after, hl, hb, hx⟩
        · obtain ⟨rfl, rfl⟩ := List.cons.inj hl
          exact absurd (ha.symm.trans hx) (by simp)
        · obtain ⟨rfl, rfl⟩ := List.cons.inj hl
          exact ⟨before, x, after, rfl, fun z hz => hb z (List.mem_cons_of_mem _ hz), hx⟩

/-- **Member for member:** the results of a list are those of its members, in order. -/
theorem mapM_eq_ok_iff {bs : List β} :
    l.mapM f = .ok bs ↔ List.Forall₂ (fun a b => f a = .ok b) l bs := by
  induction l generalizing bs with
  | nil => simp [pure, Except.pure, eq_comm]
  | cons a l ih =>
    rw [List.mapM_cons, List.forall₂_cons_left_iff]
    simp only [← ih]
    cases f a with
    | error e => simp [bind, Except.bind]
    | ok b =>
      cases l.mapM f <;> simp [bind, Except.bind, pure, Except.pure, eq_comm]

/-- Where a result tells what it was made from, the results of a list are those of which the
list can be read off again. -/
theorem mapM_eq_ok_iff_map {g : β → α} (h : ∀ a b, f a = .ok b → g b = a) {bs : List β} :
    l.mapM f = .ok bs ↔ bs.map g = l ∧ ∀ b ∈ bs, f (g b) = .ok b := by
  rw [mapM_eq_ok_iff]
  constructor
  · intro hl
    induction hl with
    | nil => exact ⟨rfl, by simp⟩
    | cons hb _ ih =>
      obtain rfl := h _ _ hb
      exact ⟨by rw [List.map_cons, ih.1], List.forall_mem_cons.2 ⟨hb, ih.2⟩⟩
  · rintro ⟨rfl, hb⟩
    rw [List.forall₂_map_left_iff, List.forall₂_same]
    exact hb

/-- All members have results exactly if each has one. -/
theorem exists_mapM_iff : (∃ bs, l.mapM f = .ok bs) ↔ ∀ x ∈ l, ∃ b, f x = .ok b := by
  induction l with
  | nil => simp [pure, Except.pure]
  | cons a l ih =>
    rw [List.mapM_cons, List.forall_mem_cons, ← ih]
    cases f a with
    | error e => simp [bind, Except.bind]
    | ok b => cases l.mapM f <;> simp [bind, Except.bind, pure, Except.pure]

end Pagewright
