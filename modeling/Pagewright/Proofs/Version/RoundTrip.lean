/-
# Versions that read back

The text of a version has the digits of its three numbers with points between them, and a dash in
front of the tag, if there is one. Digits are neither points nor dashes, so the first dash stands
in front of the tag, whatever the tag holds, and the points in front of it separate the numbers.
Therefore a version is read back from its text exactly if its tag is not empty
(`parse_toText_iff`), and what is read never has an empty tag (`pre_ne_of_parse`). The form of a
version in a document is the string of its text (`Version.toJson`), which reads back the same way
(`reads_written`).
-/

import Pagewright.Manifest.Basic
import Pagewright.Proofs.Json.Numerals
import Pagewright.Proofs.Json.Strings

namespace Pagewright
namespace Version

/-! ## Numbers -/

/-- The decimal digits of a number. -/
def digits (n : UInt32) : List Char := Nat.toDigits 10 n.toNat

theorem isDigits_digits (n : UInt32) : Json.IsDigits (digits n) := Json.isDigits_toDigits n.toNat

theorem not_mem_digits {c : Char} (hc : ¬ c.isDigit) (n : UInt32) : c ∉ digits n :=
  fun h => hc ((isDigits_digits n).2 c h)

/-- **A number is read** from its digits. -/
theorem number?_digits (n : UInt32) : number? (digits n) = some n := by
  have hplus (rest : List Char) : digits n ≠ '+' :: rest := fun h =>
    not_mem_digits (by decide) n (h ▸ List.mem_cons_self)
  have hnone : (digits n).isEmpty = false := by simpa using (isDigits_digits n).1
  have hall : (digits n).all Char.isDigit = true := List.all_eq_true.2 (isDigits_digits n).2
  have hvalue : Text.ofDigits (digits n) = n.toNat := Text.ofDigits_toDigits n.toNat
  unfold number?
  split
  · next rest h => exact absurd h (hplus rest)
  · simp [hnone, hall, hvalue, n.toNat_lt_size]

/-! ## Texts -/

/-- The numbers of a version, with points between them. -/
def core (v : Version) : List Char :=
  digits v.major ++ '.' :: (digits v.minor ++ '.' :: digits v.patch)

/-- **The text of a version:** its numbers, and its tag behind a hyphen. -/
theorem toList_toText (v : Version) :
    v.toText.toList = v.core ++ (v.pre.elim [] fun tag => '-' :: tag.toList) := by
  have hpoint : ".".toList = ['.'] := rfl
  have hdash : "-".toList = ['-'] := rfl
  rw [toText, core]
  cases v.pre with
  | none => simp [digits, hpoint]
  | some tag => simp [digits, hpoint, hdash]

/-- No hyphen stands between the numbers. -/
theorem dash_not_mem_core (v : Version) : '-' ∉ v.core := by
  simp [core, not_mem_digits (c := '-') (by decide)]

/-- **The points** of a version separate its numbers. -/
theorem splitWhere_core (v : Version) :
    Text.splitWhere (· == '.') v.core = [digits v.major, digits v.minor, digits v.patch] := by
  have hpoint (n : UInt32) : Text.splitWhere (· == '.') (digits n) = [digits n] :=
    Text.splitWhere_of_not_mem (not_mem_digits (by decide) n)
  rw [core, Text.splitWhere_append (f := (· == '.')) rfl,
    Text.splitWhere_append (f := (· == '.')) rfl, hpoint, hpoint, hpoint]
  rfl

/-- **A version is read back** from its text, if its tag is not empty. -/
theorem parse_toText {v : Version} (h : v.pre ≠ some "") : parse v.toText = .ok v := by
  rcases v with ⟨major, minor, patch, _ | tag⟩
  · have hcut : Text.splitFirst? '-' (core ⟨major, minor, patch, none⟩) = none :=
      Text.splitFirst?_eq_none_iff.2 (dash_not_mem_core _)
    simp only [parse, toList_toText, Option.elim_none, List.append_nil, hcut, splitWhere_core,
      number?_digits]
    rfl
  · have htag : tag.toList ≠ [] := by simpa using h
    obtain ⟨c, rest, hcons⟩ := List.exists_cons_of_ne_nil htag
    have hcut : Text.splitFirst? '-' (core ⟨major, minor, patch, some tag⟩ ++ '-' :: c :: rest) =
        some (core ⟨major, minor, patch, some tag⟩, c :: rest) :=
      Text.splitFirst?_append (dash_not_mem_core _) _
    simp only [parse, toList_toText, Option.elim_some, hcons, hcut, splitWhere_core,
      number?_digits]
    rw [← hcons, String.ofList_toList]
    rfl

/-- **What is read** has no empty tag. -/
theorem pre_ne_of_parse {s : String} {v : Version} (h : parse s = .ok v) : v.pre ≠ some "" := by
  unfold parse at h
  extract_lets component read at h
  have hpre (core : List Char) (pre : Option String) (hread : read core pre = .ok v) :
      v.pre = pre := by
    simp only [read] at hread
    split at hread
    · simp only [bind_eq_ok, pure_eq_ok_iff] at hread
      obtain ⟨major, -, minor, -, patch, -, rfl⟩ := hread
      rfl
    · cases hread
  split at h
  · cases h
  · next tag htag hcut =>
    rw [hpre _ _ h]
    exact fun hempty => htag (String.ofList_eq_empty_iff.1 (Option.some.inj hempty))
  · rw [hpre _ _ h]
    exact (Option.some_ne_none "").symm

/-- **A version is read back** exactly if it does not have an empty tag. -/
theorem parse_toText_iff {v : Version} : parse v.toText = .ok v ↔ v.pre ≠ some "" :=
  ⟨pre_ne_of_parse, parse_toText⟩

/-! ## Documents -/

/-- A version as it stands in a document: the string of its text. -/
def toJson (v : Version) : Json := .string v.toText

open Project.Config (version?)

/-- A version whose tag is not empty is read back from JSON. -/
theorem version?_toJson {v : Version} (h : v.pre ≠ some "") : version? v.toJson = some v := by
  rw [version?, toJson, Json.string?, Option.bind_eq_bind, Option.bind_some, parse_toText h]
  rfl

/-- **Versions round-trip:** one that was read, a release and a release with a tag that is not
empty are read back from their texts, from the strings that they are in documents and from the
documents of these strings. -/
theorem reads_written (v : Version)
    (h : (∃ s, parse s = .ok v) ∨ (∃ major minor patch, v = release major minor patch) ∨
      ∃ major minor patch tag, tag ≠ "" ∧ v = (release major minor patch).withPre tag) :
    parse v.toText = .ok v ∧ version? v.toJson = some v ∧
      (Json.parse v.toJson.compact).map version? = .ok (some v) := by
  have hpre : v.pre ≠ some "" := by
    rcases h with ⟨s, hs⟩ | ⟨major, minor, patch, rfl⟩ | ⟨major, minor, patch, tag, htag, rfl⟩
    · exact pre_ne_of_parse hs
    · exact nofun
    · exact fun he => htag (Option.some.inj he)
  refine ⟨parse_toText hpre, version?_toJson hpre, ?_⟩
  have hparse : Json.parse v.toJson.compact = .ok v.toJson := Json.parse_quote v.toText
  rw [hparse, Except.map, version?_toJson hpre]

/-- The hypothesis of `reads_written` is satisfiable: the greatest number, behind a plus and with
zeros in front, and a tag that holds dashes and points. -/
theorem greatest_reads_written :
    parse "+4294967295.007.0-rc-1..2-" = .ok ⟨4294967295, 7, 0, some "rc-1..2-"⟩ ∧
      toText ⟨4294967295, 7, 0, some "rc-1..2-"⟩ = "4294967295.7.0-rc-1..2-" ∧
      parse "4294967295.7.0-rc-1..2-" = .ok ⟨4294967295, 7, 0, some "rc-1..2-"⟩ := by
  have hread : parse "+4294967295.007.0-rc-1..2-" = .ok ⟨4294967295, 7, 0, some "rc-1..2-"⟩ := by
    decide +kernel
  have hwritten : toText ⟨4294967295, 7, 0, some "rc-1..2-"⟩ = "4294967295.7.0-rc-1..2-" := by
    decide +kernel
  refine ⟨hread, hwritten, ?_⟩
  rw [← hwritten]
  exact (reads_written _ (.inl ⟨_, hread⟩)).1

end Version
end Pagewright
