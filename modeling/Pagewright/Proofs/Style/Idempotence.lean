/-
# Adapting twice

Adapting a style map a second time changes nothing and drops nothing (`adapt_adapt`), since what an
attribute becomes stays as it is:

* a new name is supported, has no other name, and holds a colour if the old one does;
* a length in the unit of a platform is no length that the platform rescales: the number of a
  length ends with a digit, so `rpx` is not read as `r` and `px`, nor `px` as a part of `rpx`;
* a number with a unit is no colour with alpha, which has a bracket, and a colour without alpha is
  none either;
* everything else is as it was, and under the new name it is taken in the same way.
-/

import Pagewright.Proofs.Json.Numerals
import Pagewright.Proofs.Style.Adaptation
import Pagewright.Proofs.Style.Lengths

namespace Pagewright
namespace Style

variable {p : Platform} {key : String} {s t : List Char}

/-! ## Names -/

/-- **A new name** is supported, is kept, and holds a colour if the old one does. -/
theorem rename_spec (p : Platform) (key : String) (h : isSupported p key) :
    isSupported p (rename p key) ∧ rename p (rename p key) = rename p key ∧
      isColor (rename p key) = isColor key := by
  rcases rename_eq_or_mem p key with hself | hmem
  · rw [hself]
    exact ⟨h, hself, rfl⟩
  · obtain ⟨-, hkept, -, -, hsupported, hcolor⟩ := renames_spec p _ hmem
    exact ⟨hsupported, hkept, hcolor⟩

/-! ## Lengths -/

/-- **A length is its number and its unit,** and the number ends with a digit. -/
theorem Length.parse?_eq_some {l : Length} (h : Length.parse? s = some l) :
    s = l.number ++ l.unit ∧ ∃ digit, l.number.getLast? = some digit ∧ Text.isDecimal digit := by
  obtain ⟨hs, hnumber, -⟩ := parse?_eq_some_iff.1 h
  exact ⟨hs, hnumber.exists_getLast?⟩

/-- A text with a unit whose first letter is no digit is not a length with the rest as its unit. -/
theorem Length.unit_ne {c : Char} {unit : List Char} {l : Length} (hc : ¬ Text.isDecimal c)
    (h : Length.parse? (s ++ c :: unit) = some l) : l.unit ≠ unit := by
  intro hunit
  obtain ⟨hsplit, digit, hlast, hdigit⟩ := parse?_eq_some h
  have hnumber : l.number = s ++ [c] := by
    rw [hunit, List.append_cons] at hsplit
    exact (List.append_cancel_right hsplit).symm
  rw [hnumber, List.getLast?_concat] at hlast
  exact hc (Option.some.inj hlast ▸ hdigit)

/-- **A text in the unit of a platform** is not rescaled. -/
theorem rescale?_unit (hunit : unit p ≠ "") (ht : t.getLast? ≠ some 'r') :
    rescale? p (t ++ (unit p).toList) = none := by
  unfold rescale?
  unfold unit at hunit ⊢
  cases hparse : Length.parse? (t ++ _) with
  | none => rfl
  | some l =>
    cases hfamily : p.family with
    | miniProgram =>
      rw [hfamily] at hparse
      exact if_neg (Length.unit_ne (by decide) hparse)
    | browser =>
      rw [hfamily] at hparse
      refine if_neg fun hrpx => ht ?_
      have hsplit := (Length.parse?_eq_some hparse).1
      rw [hrpx, List.append_cons] at hsplit
      rw [List.append_cancel_right (hsplit : t ++ ['p', 'x'] = l.number ++ ['r'] ++ ['p', 'x']),
        List.getLast?_concat]
    | native => rw [hfamily] at hunit; exact absurd rfl hunit

/-- **A length that is rescaled** is in the unit of the platform, or a number if there is none. -/
theorem rescale?_eq_some {v : Json} (h : rescale? p s = some v) :
    (unit p ≠ "" ∧ ∃ number : List Char, number.getLast? ≠ some 'r' ∧
      v = .string (String.ofList (number ++ (unit p).toList))) ∨
    unit p = "" ∧ ∃ n, v = .number n := by
  by_cases hp : p = .rn
  · subst hp
    obtain ⟨-, -, -, -, -, -, n, -, hv⟩ := (rescale?_eq_some_iff_of_native rfl).1 h
    exact .inr ⟨rfl, n, hv⟩
  · have hunit := unit_ne_empty hp
    obtain ⟨number, hnumber, -, hv⟩ := (rescale?_eq_some_iff hunit).1 h
    exact .inl ⟨hunit, number, hnumber.getLast?_ne (by decide), hv⟩

/-! ## Colours -/

/-- A text begins with what is left of it when its end is trimmed. -/
theorem trimEnd_prefix_self (s : List Char) : Text.trimEnd s <+: s := by
  have hend := List.reverse_prefix.2 (List.dropWhile_suffix (l := s.reverse) Text.isBlank)
  rwa [List.reverse_reverse] at hend

/-- Trimming adds no characters. -/
theorem trim_subset (s : List Char) : Text.trim s ⊆ s := fun _ h =>
  (List.dropWhile_suffix _).subset ((trimEnd_prefix_self _).subset h)

/-- A colour with alpha begins with its name and a bracket. -/
theorem Rgba.prefix_of_parse? {c : Rgba} (h : Rgba.parse? s = some c) : "rgba(".toList <+: s := by
  unfold Rgba.parse? at h
  dsimp only at h
  split at h
  · cases h
  · next hprefix =>
    rw [Bool.not_eq_true', Bool.not_eq_false] at hprefix
    exact List.isPrefixOf_iff_prefix.1 hprefix

/-- What holds no bracket is no colour with alpha. -/
theorem normalizeColor_of_not_mem {s : String} (h : '(' ∉ s.toList) : normalizeColor p s = s := by
  unfold normalizeColor
  split
  · split
    · next c hparse =>
      exact absurd (trim_subset _ ((Rgba.prefix_of_parse? hparse).subset (by decide))) h
    · rfl
  · rfl

/-- **A colour without alpha** is none with alpha. -/
theorem parse?_solid (c : Rgba) : Rgba.parse? (Text.trim c.solid.toList) = none := by
  by_contra hsome
  obtain ⟨d, hd⟩ := Option.ne_none_iff_exists'.1 hsome
  have hfront : c.solid.toList.dropWhile Text.isBlank = c.solid.toList := by
    simp only [Rgba.solid, String.toList_append]
    rfl
  rw [Text.trim, hfront] at hd
  have hprefix := (Rgba.prefix_of_parse? hd).trans (trimEnd_prefix_self _)
  simp [Rgba.solid] at hprefix

/-- A colour stays as it is or is written without alpha. -/
theorem normalizeColor_eq (p : Platform) (s : String) :
    normalizeColor p s = s ∨ ∃ c : Rgba, normalizeColor p s = c.solid := by
  unfold normalizeColor
  split
  · split
    · next c hparse =>
      split
      · exact .inr ⟨c, rfl⟩
      · exact .inl rfl
    · exact .inl rfl
  · exact .inl rfl

/-- **A colour is normal** once it is normalized. -/
theorem normalizeColor_normalizeColor (p : Platform) (s : String) :
    normalizeColor p (normalizeColor p s) = normalizeColor p s := by
  rcases normalizeColor_eq p s with hself | ⟨c, hc⟩
  · rw [hself, hself]
  · rw [hc, normalizeColor, parse?_solid, ite_self]

/-! ## Attributes -/

/-- A number with a unit is no colour, and its number does not end with the first letter of a
unit. -/
theorem toText_spec (n : Number) (p : Platform) :
    '(' ∉ (n.toText ++ unit p).toList ∧ n.toText.toList.getLast? ≠ some 'r' := by
  constructor
  · rw [String.toList_append, List.mem_append]
    rintro (h | h)
    · exact absurd (Number.isNumeralChar_of_mem_toText h) (by decide)
    · revert h
      cases p <;> decide
  · intro h
    exact absurd (Number.isNumeralChar_of_mem_toText (List.mem_of_getLast? h)) (by decide)

/-- A text in the unit of a platform, with a number in front of it, is kept. -/
theorem transformValue_unit (hunit : unit p ≠ "") (key : String) (ht : t.getLast? ≠ some 'r')
    (hcolor : isColor key → '(' ∉ t ++ (unit p).toList) :
    transformValue p key (.string (String.ofList (t ++ (unit p).toList))) =
      .string (String.ofList (t ++ (unit p).toList)) := by
  unfold transformValue
  dsimp only
  split
  · next h => rw [normalizeColor_of_not_mem (by simpa using hcolor h)]
  · rw [String.toList_ofList, rescale?_unit hunit ht, Option.getD_none]

/-- **A value on a platform stays** as it is. -/
theorem transformValue_transformValue (p : Platform) (key : String) (v : Json) :
    transformValue p key (transformValue p key v) = transformValue p key v := by
  cases v with
  | number n =>
    obtain ⟨hbracket, hlast⟩ := toText_spec n p
    have hnumber (h : unit p ≠ "") : transformValue p key (.number n) =
        .string (String.ofList (n.toText.toList ++ (unit p).toList)) := by
      simp [transformValue, h]
    by_cases hunit : unit p = ""
    · have hself : transformValue p key (.number n) = .number n := if_pos hunit
      rw [hself, hself]
    · rw [hnumber hunit]
      exact transformValue_unit hunit key hlast fun _ => by simpa using hbracket
  | string s =>
    by_cases hcolor : isColor key
    · have hnormal (s : String) :
          transformValue p key (.string s) = .string (normalizeColor p s) := if_pos hcolor
      rw [hnormal, hnormal, normalizeColor_normalizeColor]
    · have hlength (s : String) :
          transformValue p key (.string s) = (rescale? p s.toList).getD (.string s) :=
        if_neg hcolor
      cases hrescale : rescale? p s.toList with
      | none => rw [hlength, hrescale, Option.getD_none, hlength, hrescale, Option.getD_none]
      | some v =>
        rw [hlength s, hrescale, Option.getD_some]
        rcases rescale?_eq_some hrescale with ⟨hunit, number, hlast, rfl⟩ | ⟨hunit, n, rfl⟩
        · exact transformValue_unit hunit key hlast fun h => absurd h hcolor
        · exact if_pos hunit
  | null | bool b | array items | object fields => rfl

/-- **An attribute on a platform stays** as it is, under its new name. -/
theorem transform?_transform? {v : Json} {e : String × Json} (h : transform? p key v = some e) :
    transform? p e.1 e.2 = some e := by
  unfold transform? at h
  split at h
  · next hsupported =>
    obtain rfl := Option.some.inj h
    obtain ⟨hname, hrename, hcolor⟩ := rename_spec p key hsupported
    have hvalue (w : Json) : transformValue p (rename p key) w = transformValue p key w := by
      unfold transformValue
      rw [hcolor]
    rw [transform?, if_pos hname, hrename, hvalue, transformValue_transformValue]
  · cases h

/-- What is in an adapted style map is what an attribute becomes. -/
theorem exists_of_mem_adapt {styles : Dict String Json} {e : String × Json}
    (h : e ∈ (adapt p styles).entries) : ∃ key v, transform? p key v = some e := by
  rw [← Dict.get?_eq_some_iff, adapt, Dict.get?_ofList] at h
  obtain ⟨before, after, hsplit, -⟩ := List.lookup_eq_some_iff.1 h
  have hmem : e ∈ styles.entries.filterMap fun e => transform? p e.1 e.2 := by
    rw [← List.mem_reverse, hsplit]
    exact List.mem_append_right _ (.head _)
  obtain ⟨authored, -, hauthored⟩ := List.mem_filterMap.1 hmem
  exact ⟨authored.1, authored.2, hauthored⟩

/-- **Adapting twice** is adapting once: a second time no attribute changes and none is dropped. -/
theorem adapt_adapt (p : Platform) (styles : Dict String Json) :
    adapt p (adapt p styles) = adapt p styles ∧ droppedIn p (adapt p styles) = [] := by
  have hfixed : ∀ e ∈ (adapt p styles).entries, transform? p e.1 e.2 = some e := by
    intro e he
    obtain ⟨key, v, hv⟩ := exists_of_mem_adapt he
    exact transform?_transform? hv
  constructor
  · refine Dict.ext_entries ?_
    rw [adapt, List.filterMap_congr hfixed, List.filterMap_some,
      Dict.entries_ofList_of_nodup (adapt p styles).nodup]
  · rw [droppedIn, List.map_eq_nil_iff, List.filter_eq_nil_iff]
    intro key hkey hdropped
    obtain ⟨e, he, rfl⟩ := List.mem_map.1 hkey
    have hnone := transform?_eq_none_iff (v := e.2).2
      (mem_unsupported_iff.2 (by simpa using hdropped))
    rw [hfixed e he] at hnone
    cases hnone

end Style
end Pagewright
