/-
# Two texts of a style map

A style map on a platform has two texts in CSS. Alone it is a block of declarations under the names
that the platform gives, and in a style sheet it is a block of the same declarations under these
names in kebab-case:

| attribute | platform | alone | in a style sheet |
| --- | --- | --- | --- |
| `margin` | any | `margin` | `margin` |
| `marginTop` | mini program | `margin-top` | `margin-top` |
| `marginTop` | browser, native | `marginTop` | `margin-top` |
| `lineHeight` | any | `lineHeight` | `line-height` |

Kebab-case makes no line shorter, so the texts agree only if every line does. They agree exactly if
every attribute that is not dropped is renamed by the platform or has no capitals
(`render_cssText_iff`).
-/

import Pagewright.Proofs.Style.Adaptation
import Pagewright.Proofs.Style.Elision
import Pagewright.Proofs.Text.Names

namespace Pagewright
namespace Text

variable {sep a b : String} {α : Type} {f g : α → String} {xs : List α}

/-! ## Joined texts -/

/-- The separator stands between the first text and the others. -/
theorem join_cons (sep a : String) {l : List String} (h : l ≠ []) :
    join sep (a :: l) = a ++ sep ++ join sep l := by
  obtain ⟨b, l, rfl⟩ := List.exists_cons_of_ne_nil h
  rfl

/-- Texts that begin with texts of one length are the same part by part. -/
theorem append_inj_of_length {c d : String} (h : a ++ c = b ++ d) (hlength : a.length = b.length) :
    a = b ∧ c = d := by
  rw [← String.toList_inj, String.toList_append, String.toList_append] at h
  obtain ⟨hfirst, hsecond⟩ :=
    List.append_inj h (by rw [String.length_toList, hlength, String.length_toList])
  exact ⟨String.toList_inj.1 hfirst, String.toList_inj.1 hsecond⟩

/-- **Joined to the same texts,** two texts make one text only if they are one. -/
theorem join_append_cons_inj (sep : String) (l m : List String) :
    join sep (l ++ a :: m) = join sep (l ++ b :: m) ↔ a = b := by
  refine ⟨fun h => ?_, fun h => by rw [h]⟩
  induction l with
  | nil =>
    rw [List.nil_append, List.nil_append] at h
    by_cases hm : m = []
    · rwa [hm] at h
    · rwa [join_cons sep a hm, join_cons sep b hm, String.append_assoc, String.append_assoc,
        String.append_left_inj] at h
  | cons c l ih =>
    rw [List.cons_append, List.cons_append, join_cons sep c (by simp), join_cons sep c (by simp),
      String.append_right_inj] at h
    exact ih h

/-- Shorter texts are shorter when they are joined. -/
theorem length_join_map_le (sep : String) (hle : ∀ x ∈ xs, (f x).length ≤ (g x).length) :
    (join sep (xs.map f)).length ≤ (join sep (xs.map g)).length := by
  induction xs with
  | nil => exact Nat.le_refl 0
  | cons x xs ih =>
    obtain ⟨hx, hxs⟩ := List.forall_mem_cons.1 hle
    by_cases hnil : xs = []
    · rw [hnil]
      exact hx
    · have hrest := ih hxs
      rw [List.map_cons, List.map_cons, join_cons sep _ (by simpa using hnil),
        join_cons sep _ (by simpa using hnil)]
      simp only [String.length_append]
      omega

/-- **Lines that are no longer than others,** one by one, make the same text only if they are the
same. -/
theorem join_map_eq_iff (sep : String) (hle : ∀ x ∈ xs, (f x).length ≤ (g x).length) :
    join sep (xs.map f) = join sep (xs.map g) ↔ ∀ x ∈ xs, f x = g x := by
  refine ⟨fun h => ?_, fun h => by rw [List.map_congr_left h]⟩
  induction xs with
  | nil => exact List.forall_mem_nil _
  | cons x xs ih =>
    obtain ⟨hx, hxs⟩ := List.forall_mem_cons.1 hle
    by_cases hnil : xs = []
    · rw [hnil] at h ⊢
      exact List.forall_mem_singleton.2 h
    · have hrest := length_join_map_le sep hxs
      rw [List.map_cons, List.map_cons, join_cons sep _ (by simpa using hnil),
        join_cons sep _ (by simpa using hnil)] at h
      have hlength := congrArg String.length h
      simp only [String.length_append] at hlength
      -- neither the first line nor the others leave room for a difference
      have hfirst : (f x).length = (g x).length := by omega
      rw [String.append_assoc, String.append_assoc] at h
      obtain ⟨hhead, htail⟩ := append_inj_of_length h hfirst
      exact List.forall_mem_cons.2 ⟨hhead, ih hxs ((String.append_right_inj sep).1 htail)⟩

end Text

namespace Style

open Naming (isAsciiUpper kebabCase kebabCase_eq_self_iff length_le_kebabCase)

variable {p : Platform} {key : String} {styles : Dict String Json}

/-! ## Blocks of declarations -/

/-- **Two spellings of the names,** one never longer than the other, give the same block exactly if
they are the same on the names in it. -/
theorem declarations_eq_iff {spell spell' : String → String}
    (hle : ∀ name, (spell name).length ≤ (spell' name).length) (styles : Dict String Json) :
    declarations spell styles = declarations spell' styles ↔
      ∀ name ∈ styles.keys, spell name = spell' name := by
  unfold declarations
  split
  · next hempty =>
    refine iff_of_true rfl ?_
    rw [eq_empty_of_isEmpty hempty]
    exact List.forall_mem_nil _
  · have hline : ∀ e ∈ styles.entries,
        ("  " ++ spell e.1 ++ ": " ++ cssValue e.2 ++ ";").length ≤
          ("  " ++ spell' e.1 ++ ": " ++ cssValue e.2 ++ ";").length := by
      intro e _
      have := hle e.1
      simp only [String.length_append]
      omega
    rw [String.append_left_inj, String.append_right_inj, Text.join_map_eq_iff "\n" hline,
      Dict.keys, List.forall_mem_map]
    simp only [String.append_left_inj, String.append_right_inj]

/-! ## Names on a platform -/

/-- Whether a platform gives an attribute another name. -/
def IsRenamed (p : Platform) (key : String) : Prop := key ∈ (renames p).map Prod.fst

/-- An attribute that is not renamed keeps its name. -/
theorem rename_of_not_isRenamed (h : ¬ IsRenamed p key) : rename p key = key :=
  (rename_eq_or_mem p key).resolve_right fun hmem => h (List.mem_map_of_mem hmem)

/-- The names that a platform gives are in kebab-case. -/
theorem kebabCase_rename_of_isRenamed (h : IsRenamed p key) :
    kebabCase (rename p key) = rename p key := by
  have htable : ∀ e ∈ renames p, kebabCase e.2 = e.2 := by
    unfold renames
    cases p.family <;> decide +kernel
  obtain ⟨e, he, rfl⟩ := List.mem_map.1 h
  rw [(renames_spec p e he).1]
  exact htable e he

/-- **A name on a platform is in kebab-case** if the platform gives it, or if the authored one has
no capitals. -/
theorem kebabCase_rename_eq_self_iff (p : Platform) (key : String) :
    kebabCase (rename p key) = rename p key ↔
      IsRenamed p key ∨ ∀ c ∈ key.toList, ¬ isAsciiUpper c := by
  by_cases h : IsRenamed p key
  · exact iff_of_true (kebabCase_rename_of_isRenamed h) (.inl h)
  · rw [rename_of_not_isRenamed h, kebabCase_eq_self_iff, or_iff_right h]

/-! ## The two texts -/

/-- **Where the two texts of a style map agree.** The rule of a style map in a sheet, wherever it
stands, has the declarations that the style map has alone exactly if each of its attributes that is
not dropped is renamed by the platform or has no capitals. -/
theorem render_cssText_iff (p : Platform) (styles : Dict String Json) (selector : String)
    (before after : List (String × Dict String Json)) :
    (Sheet.mk (before ++ (selector, adapt p styles) :: after)).render =
        Text.join "\n\n" (before.map Sheet.ruleText ++
          (selector ++ " " ++ cssText p styles) :: after.map Sheet.ruleText) ↔
      ∀ key ∈ styles.keys, key ∉ unsupported p →
        IsRenamed p key ∨ ∀ c ∈ key.toList, ¬ isAsciiUpper c := by
  have hblock : Sheet.ruleText (selector, adapt p styles) = selector ++ " " ++ cssText p styles ↔
      ∀ name ∈ (adapt p styles).keys, kebabCase name = name := by
    rw [Sheet.ruleText, cssText, String.append_right_inj, eq_comm,
      declarations_eq_iff length_le_kebabCase]
    exact forall₂_congr fun _ _ => eq_comm
  rw [Sheet.render, List.map_append, List.map_cons, Text.join_append_cons_inj, hblock]
  constructor
  · intro h key hkey hsupported
    exact (kebabCase_rename_eq_self_iff p key).1
      (h _ (mem_keys_adapt_iff.2 ⟨key, hkey, hsupported, rfl⟩))
  · intro h name hname
    obtain ⟨key, hkey, hsupported, rfl⟩ := mem_keys_adapt_iff.1 hname
    exact (kebabCase_rename_eq_self_iff p key).2 (h key hkey hsupported)

/-- The background of a page, as it is authored. -/
def whiteBackground : Dict String Json := .ofList [("backgroundColor", .string "#fff")]

/-- **The two texts of a background differ** in a browser, which does not rename it. -/
theorem whiteBackground_texts :
    ¬ (Sheet.empty.addRule ".page" (adapt .h5 whiteBackground)).render =
        ".page " ++ cssText .h5 whiteBackground ∧
      (Sheet.empty.addRule ".page" (adapt .h5 whiteBackground)).render =
        ".page \x7b\n  background-color: #fff;\n\x7d" ∧
      cssText .h5 whiteBackground = "\x7b\n  backgroundColor: #fff;\n\x7d" := by
  decide +kernel

end Style
end Pagewright
