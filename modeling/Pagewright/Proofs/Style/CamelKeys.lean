/-
# Attributes in camelCase

A style sheet prints the names of attributes in kebab-case. Of a name in camelCase every capital
stands behind a small letter or a digit, so a dash is put in front of each of them and nowhere else,
and the words between the dashes, capitalized again, give the name back (`camelCase_kebabCase`):

| name | printed | read back |
| --- | --- | --- |
| `borderTopLeftRadius` | `border-top-left-radius` | `borderTopLeftRadius` |
| `grid2Column` | `grid2-column` | `grid2Column` |
| `WebkitBoxFlex`, not in camelCase | `webkit-box-flex` | `webkitBoxFlex` |

Two attributes in camelCase are therefore never printed under one name, and from a sheet of such
attributes those that a platform supports can be read off, rule by rule and in order
(`camelCase_keys_apart`).
-/

import Pagewright.Proofs.Style.Adaptation
import Pagewright.Proofs.Style.Elision
import Pagewright.Proofs.Text.Names
import Mathlib

namespace Pagewright

namespace Naming

variable {c p : Char} {s : List Char}

/-! ## Letters and their cases -/

/-- **A capital is restored** from its small letter. -/
theorem upper_toLower (h : isAsciiUpper c) : Text.upper c.toLower = [c] := by
  rw [isAsciiUpper_eq_isUpper] at h
  have hsmall : isAsciiLower c.toLower := by
    rw [isAsciiLower_eq_isLower, Char.isLower_toLower_eq_isAlpha, Char.isAlpha, h, Bool.true_or]
  rw [isAsciiLower_iff_toNat] at hsmall
  rw [Text.upper, if_pos (by omega), Char.toUpper_toLower_eq_toUpper,
    Char.toUpper_eq_of_not_isLower (Char.not_isLower_of_isUpper h)]

/-- **A small letter is restored** from its capital. -/
theorem lower_toUpper (h : isAsciiLower c) : Text.lower c.toUpper = [c] := by
  rw [isAsciiLower_eq_isLower] at h
  have hcapital : isAsciiUpper c.toUpper := by
    rw [isAsciiUpper_eq_isUpper, Char.isUpper_toUpper_eq_isAlpha, Char.isAlpha, h, Bool.or_true]
  rw [isAsciiUpper_iff_toNat] at hcapital
  rw [Text.lower, if_pos (by omega), Char.toLower_toUpper_eq_toLower,
    Char.toLower_eq_of_not_isUpper (Char.not_isUpper_of_isLower h)]

/-- No letter and no digit separates words. -/
theorem not_isSeparator_of_isAsciiAlphanumeric (h : isAsciiAlphanumeric c) : ¬ isSeparator c := by
  have hrange := range_of_isAsciiAlphanumeric h
  intro hc
  simp only [isSeparator, Bool.or_eq_true, beq_iff_eq] at hc
  rcases hc with (rfl | rfl) | rfl
  · exact absurd h (by decide)
  · exact absurd hrange (by decide)
  · exact absurd hrange (by decide)

/-! ## No capitals are left -/

/-- There is no capital in kebab-case. -/
theorem not_isAsciiUpper_of_mem_kebabAfter {previous : Option Char}
    (h : c ∈ kebabAfter previous s) : ¬ isAsciiUpper c := by
  induction s generalizing previous with
  | nil => cases h
  | cons d s ih =>
    rw [kebabAfter_cons, List.mem_append, List.mem_cons] at h
    rcases h with h | rfl | h
    · split at h
      · obtain rfl := List.mem_singleton.1 h
        decide
      · cases h
    · rw [isAsciiUpper_eq_isUpper, Char.isUpper_toLower_eq_false]
      exact Bool.false_ne_true
    · exact ih h

/-- **Kebab-case is left as it is,** for it has no capitals. -/
theorem kebabCase_kebabCase (s : String) : kebabCase (kebabCase s) = kebabCase s := by
  refine (kebabCase_eq_self_iff (kebabCase s)).2 fun c hc => ?_
  rw [kebabCase, String.toList_ofList] at hc
  exact not_isAsciiUpper_of_mem_kebabAfter hc

/-! ## Words -/

/-- What the words of a name are joined to behind its first character: the first word as it stands,
the others capitalized. -/
def continuation (s : List Char) : List Char :=
  match Text.splitWhere isSeparator s with
  | [] => []
  | word :: words => word ++ words.flatMap capitalize

/-- A character that does not separate goes on with the first word. -/
theorem splitWhere_cons_of_not {f : Char → Bool} (h : ¬ f c) {word : List Char}
    {words : List (List Char)} (hs : Text.splitWhere f s = word :: words) :
    Text.splitWhere f (c :: s) = (c :: word) :: words := by
  rw [Text.splitWhere, hs]
  exact if_neg h

/-- The first character of a word becomes a capital. -/
theorem pascalChars_cons (h : ¬ isSeparator c) (s : List Char) :
    pascalChars (c :: s) = Text.upper c ++ continuation s := by
  obtain ⟨word, words, hs⟩ :=
    List.exists_cons_of_ne_nil (Text.splitWhere_ne_nil isSeparator s)
  rw [pascalChars, splitWhere_cons_of_not h hs, continuation, hs, List.flatMap_cons, capitalize,
    List.append_assoc]

/-- Behind a separator a word begins. -/
theorem continuation_cons_separator (h : isSeparator c) (s : List Char) :
    continuation (c :: s) = pascalChars s := by
  have hsplit := Text.splitWhere_append h [] s
  rw [List.nil_append] at hsplit
  rw [continuation, hsplit]
  rfl

/-- Any other character goes on with the word. -/
theorem continuation_cons (h : ¬ isSeparator c) (s : List Char) :
    continuation (c :: s) = c :: continuation s := by
  obtain ⟨word, words, hs⟩ :=
    List.exists_cons_of_ne_nil (Text.splitWhere_ne_nil isSeparator s)
  rw [continuation, splitWhere_cons_of_not h hs, continuation, hs]
  rfl

/-! ## Names in camelCase -/

/-- A name in camelCase: letters and digits, a small letter in front, and each capital right behind
a small letter or a digit. -/
structure IsCamelCase (name : String) : Prop where
  chars : ∀ c ∈ name.toList, isAsciiAlphanumeric c
  head : name.toList.head?.any isAsciiLower
  capitals : name.toList.IsChain fun p c => isAsciiUpper c → isAsciiLower p ∨ isAsciiDigit p

instance : DecidablePred IsCamelCase := fun name =>
  decidable_of_iff
    (name.toList.all isAsciiAlphanumeric ∧ name.toList.head?.any isAsciiLower ∧
      name.toList.IsChain fun p c => isAsciiUpper c → isAsciiLower p ∨ isAsciiDigit p)
    ⟨fun ⟨hchars, hhead, hcapitals⟩ => ⟨List.all_eq_true.1 hchars, hhead, hcapitals⟩,
      fun ⟨hchars, hhead, hcapitals⟩ => ⟨List.all_eq_true.2 hchars, hhead, hcapitals⟩⟩

/-- **What follows a character comes back:** the dashes stand where the capitals are. -/
theorem continuation_kebabAfter (hchars : ∀ c ∈ s, isAsciiAlphanumeric c)
    (hcapitals : (p :: s).IsChain fun p c => isAsciiUpper c → isAsciiLower p ∨ isAsciiDigit p) :
    continuation (kebabAfter (some p) s) = s := by
  induction s generalizing p with
  | nil => rfl
  | cons c s ih =>
    obtain ⟨hc, hs⟩ := List.forall_mem_cons.1 hchars
    obtain ⟨hp, hcapitals⟩ := List.isChain_cons_cons.1 hcapitals
    have hrest := ih hs hcapitals
    by_cases hupper : isAsciiUpper c
    · -- a new word begins, with the small letter of the capital
      have hsmall : ¬ isSeparator c.toLower := by
        refine not_isSeparator_of_isAsciiAlphanumeric ?_
        rw [isAsciiAlphanumeric, isAsciiLetter_eq_isAlpha, Char.isAlpha_toLower_eq_isAlpha,
          Char.isAlpha, ← isAsciiUpper_eq_isUpper, hupper, Bool.true_or, Bool.true_or]
      rw [kebabAfter_cons_capital hupper (hp hupper), continuation_cons_separator (by decide),
        pascalChars_cons hsmall, upper_toLower hupper, hrest, List.singleton_append]
    · -- the word goes on
      rw [kebabAfter_cons_of_not_capital hupper,
        continuation_cons (not_isSeparator_of_isAsciiAlphanumeric hc), hrest]

/-- **A name in camelCase comes back** from its kebab-case form. -/
theorem camelCase_kebabCase {name : String} (h : IsCamelCase name) :
    camelCase (kebabCase name) = name := by
  obtain ⟨hchars, hhead, hcapitals⟩ := h
  rw [camelCase, kebabCase, String.toList_ofList, ← String.toList_inj, String.toList_ofList]
  cases hname : name.toList with
  | nil =>
    rw [hname] at hhead
    cases hhead
  | cons c s =>
    rw [hname] at hchars hhead hcapitals
    obtain ⟨hc, hs⟩ := List.forall_mem_cons.1 hchars
    have hsmall : isAsciiLower c := hhead
    have hcapital : ¬ isAsciiUpper c := by
      rw [isAsciiUpper_eq_isUpper]
      exact Char.not_isUpper_of_isLower hsmall
    have hfirst : Text.upper c = [c.toUpper] := by
      have hrange := range_of_isAsciiAlphanumeric hc
      exact if_pos (by omega)
    rw [kebabAfter_cons_of_not_capital hcapital,
      pascalChars_cons (not_isSeparator_of_isAsciiAlphanumeric hc), hfirst,
      continuation_kebabAfter hs hcapitals, List.singleton_append, uncapitalize,
      lower_toUpper hsmall, List.singleton_append]

/-- A capital in front does not come back. -/
example : camelCase (kebabCase "WebkitBoxFlex") = "webkitBoxFlex" := by decide +kernel

/-- **Names in camelCase stay apart** in kebab-case. -/
theorem kebabCase_injOn : Set.InjOn kebabCase {name | IsCamelCase name} :=
  Set.LeftInvOn.injOn fun _ h => camelCase_kebabCase h

end Naming

namespace Style

open Naming

variable {p : Platform}

/-! ## What is read off a sheet -/

/-- A selector with the camelCase names of what is declared under it. -/
def readBlock (block : String × List (String × String)) : String × List String :=
  (block.1, block.2.map fun d => camelCase d.1)

/-- **Supported attributes in camelCase are read off** an adapted style map, in their order. -/
theorem map_camelCase_adapt {styles : Dict String Json} (h : ∀ key ∈ styles.keys, IsCamelCase key) :
    (adapt p styles).entries.map (fun e => camelCase (kebabCase e.1)) =
      styles.keys.filter (isSupported p) := by
  have hback : ((results p styles.entries).map Prod.fst).map
      (fun name => camelCase (kebabCase name)) = styles.keys.filter (isSupported p) := by
    rw [map_fst_results, List.map_map]
    refine (List.map_congr_left fun key hkey => ?_).trans (List.map_id _)
    rw [Function.comp_apply, kebabCase_rename]
    exact camelCase_kebabCase (h key (List.mem_filter.1 hkey).1)
  -- what is read off is distinct, so no result takes the place of another
  have hdistinct : ((results p styles.entries).map Prod.fst).Nodup :=
    List.Nodup.of_map _ (hback ▸ styles.nodup_keys.filter _)
  rw [adapt, filterMap_transform?, Dict.entries_ofList_of_nodup hdistinct, ← hback, List.map_map]
  rfl

/-- **A sheet of attributes in camelCase** has the supported ones of every style map that has some,
rule by rule and in order. -/
theorem map_readBlock_blocks {styles : List (String × Dict String Json)}
    (h : ∀ e ∈ styles, ∀ key ∈ e.2.keys, IsCamelCase key) :
    (Sheet.ofStyles p styles).blocks.map readBlock =
      (styles.map fun e => (e.1, e.2.keys.filter (isSupported p))).filter fun e =>
        !e.2.isEmpty := by
  have hread (e) (he : e ∈ styles) := map_camelCase_adapt (p := p) (h e he)
  have hempty : ∀ e ∈ styles,
      (!(adapt p e.2).isEmpty) = !(e.2.keys.filter (isSupported p)).isEmpty := by
    intro e he
    rw [← hread e he, List.isEmpty_map]
    rfl
  rw [Sheet.blocks, Sheet.ofStyles, List.map_map, List.filter_map, List.map_map, List.filter_map]
  refine (congrArg (List.map _) (List.filter_congr hempty)).trans ?_
  refine List.map_congr_left fun e he => Prod.ext rfl ?_
  exact List.map_map.trans (hread e (List.mem_filter.1 he).1)

/-- **Attributes in camelCase stay apart.** The kebab-case form of a name is left as it is, and a
name in camelCase is read back from it. So two such names have two forms, and in a sheet, which is
printed as its declarations, no two of them under one selector become one property. From the sheet
of style maps in camelCase all that the platform supports can be read off. -/
theorem camelCase_keys_apart :
    (∀ s, kebabCase (kebabCase s) = kebabCase s) ∧
      (∀ s, IsCamelCase s → camelCase (kebabCase s) = s) ∧
      (∀ s t, IsCamelCase s → IsCamelCase t → s ≠ t → kebabCase s ≠ kebabCase t) ∧
      (∀ sheet : Sheet, sheet.render = Text.join "\n\n" (sheet.blocks.map blockText) ∧
        ∀ rule ∈ sheet.rules, rule.2.keys.Pairwise fun key key' =>
          IsCamelCase key → IsCamelCase key' → kebabCase key ≠ kebabCase key') ∧
      ∀ p styles, (∀ e ∈ styles, ∀ key ∈ e.2.keys, IsCamelCase key) →
        (Sheet.ofStyles p styles).blocks.map readBlock =
          (styles.map fun e => (e.1, e.2.keys.filter (isSupported p))).filter fun e =>
            !e.2.isEmpty := by
  have hapart : ∀ s t, IsCamelCase s → IsCamelCase t → s ≠ t → kebabCase s ≠ kebabCase t :=
    fun s t hs ht hne heq => hne (kebabCase_injOn hs ht heq)
  refine ⟨kebabCase_kebabCase, fun s => camelCase_kebabCase, hapart, fun sheet =>
    ⟨sheet.render_eq, fun rule _ => ?_⟩, fun p styles => map_readBlock_blocks⟩
  exact rule.2.nodup_keys.imp fun hne hkey hkey' => hapart _ _ hkey hkey' hne

/-- A style map with two long names and one that mini programs drop. -/
def roundedStyles : Dict String Json :=
  .ofList [("borderTopLeftRadius", .null), ("boxShadow", .null), ("backgroundColor", .null)]

/-- The hypotheses of `camelCase_keys_apart` are satisfiable: the names of a style map in camelCase
are read back, differ in kebab-case and, but for the one that is dropped, are read off its sheet. -/
theorem roundedStyles_apart :
    IsCamelCase "borderTopLeftRadius" ∧ IsCamelCase "backgroundColor" ∧
      kebabCase "borderTopLeftRadius" = "border-top-left-radius" ∧
      camelCase (kebabCase "borderTopLeftRadius") = "borderTopLeftRadius" ∧
      kebabCase "borderTopLeftRadius" ≠ kebabCase "backgroundColor" ∧
      (∀ key ∈ roundedStyles.keys, IsCamelCase key) ∧
      (Sheet.ofStyles .weapp [(".box", roundedStyles)]).blocks.map readBlock =
        [(".box", ["borderTopLeftRadius", "backgroundColor"])] := by
  obtain ⟨-, hback, hapart, -, hread⟩ := camelCase_keys_apart
  have hradius : IsCamelCase "borderTopLeftRadius" := by decide +kernel
  have hbackground : IsCamelCase "backgroundColor" := by decide +kernel
  have hkeys : ∀ key ∈ roundedStyles.keys, IsCamelCase key := by decide +kernel
  refine ⟨hradius, hbackground, by decide +kernel, hback _ hradius,
    hapart _ _ hradius hbackground (by decide), hkeys, ?_⟩
  rw [hread .weapp [(".box", roundedStyles)] (List.forall_mem_singleton.2 hkeys)]
  decide +kernel

end Style
end Pagewright
