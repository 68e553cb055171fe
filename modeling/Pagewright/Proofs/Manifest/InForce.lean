/-
# The rules in force

A registry with an accepted manifest has two kinds of rules, declared ones and standard
ones. The declared ones are checked when the manifest is read and the standard ones obey
the same checks, so every rule in force is valid (`validRule_of_get?`): neither
conversion nor merging lets another one in.

The checks look for faults. What passes them is this:

| tag | characters |
| --- | --- |
| of a module (`IsReference`) | `A`–`Z`, then letters, digits, `_` and `$`; no reserved word |
| of no module (`IsElementName`) | a letter, then letters, digits and dashes; no dash at the end |
-/

import Pagewright.Proofs.Manifest.Accepted
import Pagewright.Proofs.Registry.Declared

namespace Pagewright
namespace Manifest

open Naming (isAsciiAlphanumeric isAsciiLetter isAsciiUpper)
open Registry (standard declared_or_standard of_standard)

/-- A tag that may be imported: an identifier that begins with a capital and is no reserved
word. -/
structure IsReference (tag : String) : Prop where
  shape : ∃ c rest, tag.toList = c :: rest ∧ isAsciiUpper c ∧
    ∀ d ∈ rest, isAsciiAlphanumeric d ∨ d = '_' ∨ d = '$'
  unreserved : tag ∉ reservedWords

/-- A tag that needs no import: letters, digits and dashes, a letter in front and no dash at
the end. -/
def IsElementName (tag : String) : Prop :=
  ∃ c rest, tag.toList = c :: rest ∧ isAsciiLetter c ∧
    (∀ d ∈ rest, isAsciiAlphanumeric d ∨ d = '-') ∧ tag.toList.getLast? ≠ some '-'

/-- Nothing is renamed from or to an empty name. -/
def RenamesNamed (rule : Mapping.Rule) : Prop :=
  (∀ m ∈ rule.props.getD [], m.source ≠ "" ∧ m.target ≠ "") ∧
    ∀ m ∈ rule.styles.getD [], m.source ≠ "" ∧ m.target ≠ ""

/-! ## What passes the checks -/

/-- A name that is not reserved is none of the reserved words. -/
theorem isReserved_eq_false_iff {name : String} :
    isReserved name = false ↔ name ∉ reservedWords := by
  rw [isReserved, ← Bool.not_eq_true, List.contains_iff_mem]

/-- The characters of an identifier are letters, digits, the underscore and the dollar sign. -/
theorem isIdentifierPart_iff {c : Char} :
    Source.Jsx.isIdentifierPart c ↔ isAsciiAlphanumeric c ∨ c = '_' ∨ c = '$' := by
  simp only [Source.Jsx.isIdentifierPart, Source.Jsx.isIdentifierStart, isAsciiAlphanumeric,
    Bool.or_eq_true, beq_iff_eq]
  grind

/-- A name has no fault as an identifier exactly if it is one. -/
theorem identifierFault?_eq_none_iff {name : String} :
    identifierFault? name = none ↔ Source.Jsx.isIdentifier name := by
  unfold identifierFault? Source.Jsx.isIdentifier
  cases name.toList with
  | nil => simp
  | cons c rest =>
    dsimp only
    generalize Source.Jsx.isIdentifierStart c = start
    generalize rest.all Source.Jsx.isIdentifierPart = part
    cases start <;> cases part <;> simp

/-- **An imported tag** passes the check exactly if it is a reference. -/
theorem isReference_iff {tag : String} :
    IsReference tag ↔ IsName tag ∧ isCapitalized tag := by
  rw [IsName, isReserved_eq_false_iff, identifierFault?_eq_none_iff, isCapitalized,
    Source.Jsx.isIdentifier]
  constructor
  · rintro ⟨⟨c, rest, htag, hc, hrest⟩, hreserved⟩
    rw [htag]
    have hstart : Source.Jsx.isIdentifierStart c := by
      simp [Source.Jsx.isIdentifierStart, isAsciiLetter, hc]
    have hpart : rest.all Source.Jsx.isIdentifierPart :=
      List.all_eq_true.2 fun d hd => isIdentifierPart_iff.2 (hrest d hd)
    exact ⟨⟨hreserved, by simp [hstart, hpart]⟩, hc⟩
  · rintro ⟨⟨hreserved, hname⟩, hcapital⟩
    refine ⟨?_, hreserved⟩
    cases htag : tag.toList with
    | nil => rw [htag] at hname; cases hname
    | cons c rest =>
      rw [htag, Bool.and_eq_true, List.all_eq_true] at hname
      rw [htag] at hcapital
      exact ⟨c, rest, rfl, hcapital, fun d hd => isIdentifierPart_iff.1 (hname.2 d hd)⟩

/-- A dash at the end of a name that begins with a letter is one behind the letter. -/
theorem getLast?_cons_ne_dash_iff {c : Char} (hc : isAsciiLetter c) {rest : List Char} :
    (c :: rest).getLast? ≠ some '-' ↔ rest.getLast? ≠ some '-' := by
  cases rest with
  | nil =>
    have hne : c ≠ '-' := by
      rintro rfl
      exact absurd hc (by decide)
    simp [hne]
  | cons d rest => rw [List.getLast?_cons_cons]

/-- **A tag without import** passes the check exactly if it is an element name. -/
theorem isElementName_iff {tag : String} : IsElementName tag ↔ elementFault? tag = none := by
  have hchars (rest : List Char) : (∀ d ∈ rest, isAsciiAlphanumeric d ∨ d = '-') ↔
      rest.all isElementChar = true := by
    simp only [List.all_eq_true, isElementChar, Bool.or_eq_true, beq_iff_eq]
  simp only [IsElementName, hchars, elementFault?]
  cases tag.toList with
  | nil => simp
  | cons c rest =>
    simp only [List.cons.injEq]
    constructor
    · rintro ⟨_, _, ⟨rfl, rfl⟩, hc, hall, hlast⟩
      simp only [hc, hall, (getLast?_cons_ne_dash_iff hc).1 hlast, Bool.not_true,
        Bool.false_eq_true, if_false]
    · intro h
      split_ifs at h with hc hlast hall
      rw [Bool.not_eq_true', Bool.not_eq_false] at hc hall
      exact ⟨c, rest, ⟨rfl, rfl⟩, hc, hall, (getLast?_cons_ne_dash_iff hc).2 hlast⟩

/-- The renames of a rule have names exactly if none of them is empty. -/
theorem renamesNamed_iff {rule : Mapping.Rule} :
    RenamesNamed rule ↔ hasEmptyName rule = false := by
  simp [RenamesNamed, hasEmptyName, not_or]

/-! ## Every rule in force -/

variable {m : Manifest} {type : String} {p : Platform} {rule : Mapping.Rule}

/-- **The standard rules obey the checks.** -/
theorem validRule_of_standard (h : standard.get? type p = some rule) : ValidRule rule := by
  have hall : ∀ e ∈ standard.builtins.entries, ∀ f ∈ e.2.rules.entries,
      (checkRule (.ofText "") f).isOk := by
    decide
  have hok := of_standard hall h
  refine (checkRule_eq_ok_iff (s := .ofText "") (e := (p, rule))).1 ?_
  cases hc : checkRule (.ofText "") (p, rule) with
  | error f => rw [hc] at hok; cases hok
  | ok u => rfl

/-- A rule that an accepted manifest declares is valid. -/
theorem validRule_of_declared (hv : Valid m) {d : Mapping.Declaration}
    (hd : m.components.get? type = some d) (hrule : d.rules.get? p = some rule) :
    ValidRule rule :=
  (hv.components _ (Dict.get?_eq_some_iff.1 hd)).rules _ (Dict.get?_eq_some_iff.1 hrule)

/-- **Every rule in force is valid,** if the manifest is. -/
theorem validRule_of_get? (hv : Valid m)
    (h : (standard.registerManifest m).get? type p = some rule) : ValidRule rule := by
  rcases declared_or_standard h with ⟨d, hd, hrule⟩ | hs
  · exact validRule_of_declared hv hd hrule
  · exact validRule_of_standard hs

/-- The tag of a valid rule with an import is a reference. -/
theorem ValidRule.isReference (h : ValidRule rule) (hpath : rule.importPath ≠ "") :
    IsReference rule.tag :=
  isReference_iff.2 (h.imported hpath)

/-- The tag of a valid rule without an import is an element name. -/
theorem ValidRule.isElementName (h : ValidRule rule) (hpath : rule.importPath = "") :
    IsElementName rule.tag :=
  isElementName_iff.2 (h.element hpath)

end Manifest
end Pagewright
