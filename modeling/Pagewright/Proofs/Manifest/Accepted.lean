/-
# Which manifests are accepted

A text is accepted if it is a TOML document, the document has the shape of a
manifest, and the manifest is valid (`parse_eq_ok_iff`). A manifest is valid by the
names in it; where they stand in the text counts for a refusal only
(`check_eq_ok_iff`).

| name | valid |
| --- | --- |
| of the project | a package name |
| of a component type | an identifier, not reserved, for which there is a rule |
| of a tag with an import | an identifier, not reserved, capitalized |
| of a tag without one | an element name |
| of a source or a target | any but the empty one |
-/

import Pagewright.Manifest.Basic
import Pagewright.Proofs.Failing
import Mathlib

namespace Pagewright

/-- A text is a document exactly if its lines make one. -/
theorem Toml.parse?_eq_some_iff {text : String} {v : Json} :
    parse? text = some v ↔
      ∃ pairs sections,
        lines? (3 * ((dropMark text.toList).length + 1)) (dropMark text.toList) =
          some (pairs, sections) ∧ build? pairs sections = some v := by
  rw [parse?, Option.bind_eq_bind, Option.bind_eq_some_iff]
  exact Prod.exists

namespace Manifest

/-- A name is an identifier and no reserved word. -/
def IsName (name : String) : Prop := isReserved name = false ∧ identifierFault? name = none

/-- A tag fits its import, and nothing is renamed from or to an empty name. -/
structure ValidRule (rule : Mapping.Rule) : Prop where
  imported : rule.importPath ≠ "" → IsName rule.tag ∧ isCapitalized rule.tag
  element : rule.importPath = "" → elementFault? rule.tag = none
  renames : hasEmptyName rule = false

/-- A component type is a name and has rules, all of them valid. -/
structure ValidComponent (type : String) (d : Mapping.Declaration) : Prop where
  name : IsName type
  nonempty : d.rules.isEmpty = false
  rules : ∀ e ∈ d.rules.entries, ValidRule e.2

/-- The project and the components of a manifest have valid names. -/
structure Valid (m : Manifest) : Prop where
  project : packageFault? m.config.name = none
  components : ∀ e ∈ m.components.entries, ValidComponent e.1 e.2

/-- A name passes exactly if it is one. -/
theorem Scope.checkName_eq_ok_iff {s : Scope} {name kind : String} :
    s.checkName name kind = .ok () ↔ IsName name := by
  unfold checkName IsName
  cases isReserved name with
  | true => simp
  | false => cases identifierFault? name <;> simp

/-- A tag passes exactly if it is a capitalized name with an import, or an element name without
one. -/
theorem Scope.checkTag_eq_ok_iff {s : Scope} {tag : String} {imported : Bool} :
    s.checkTag tag imported = .ok () ↔
      (imported = true → IsName tag ∧ isCapitalized tag) ∧
        (imported = false → elementFault? tag = none) := by
  unfold checkTag
  cases imported with
  | true =>
    rw [if_pos rfl, bind_eq_ok_iff, checkName_eq_ok_iff]
    cases isCapitalized tag <;> simp [pure, Except.pure]
  | false => cases elementFault? tag <;> simp

/-- A rule passes exactly if it is valid. -/
theorem checkRule_eq_ok_iff {s : Scope} {e : Platform × Mapping.Rule} :
    checkRule s e = .ok () ↔ ValidRule e.2 := by
  have hi : (!e.2.importPath.isEmpty) = true ↔ e.2.importPath ≠ "" := by simp
  have hn : (!e.2.importPath.isEmpty) = false ↔ e.2.importPath = "" := by simp
  have hr : (if hasEmptyName e.2 then .error (.emptyName (s.push e.1.id).pathText)
      else pure () : Except Failure Unit) = .ok () ↔ hasEmptyName e.2 = false := by
    cases hasEmptyName e.2 <;> simp [pure, Except.pure]
  rw [checkRule, bind_eq_ok_iff, Scope.checkTag_eq_ok_iff, hi, hn, hr]
  exact ⟨fun h => ⟨h.1.1, h.1.2, h.2⟩, fun h => ⟨⟨h.imported, h.element⟩, h.renames⟩⟩

/-- A component passes exactly if it is valid. -/
theorem checkComponent_eq_ok_iff {s : Scope} {e : String × Mapping.Declaration} :
    checkComponent s e = .ok () ↔ ValidComponent e.1 e.2 := by
  rw [checkComponent, bind_eq_ok_iff, Scope.checkName_eq_ok_iff]
  cases hd : e.2.rules.isEmpty with
  | true =>
    simp only [if_true, reduceCtorEq, and_false, false_iff]
    exact fun h => Bool.false_ne_true (h.nonempty.symm.trans hd)
  | false =>
    simp only [Bool.false_eq_true, if_false, forM_eq_ok_iff, checkRule_eq_ok_iff]
    exact ⟨fun h => ⟨h.1, hd, h.2⟩, fun h => ⟨h.name, h.rules⟩⟩

/-- **A manifest passes** exactly if it is valid. -/
theorem check_eq_ok_iff {s : Scope} {m : Manifest} : check s m = .ok () ↔ Valid m := by
  have hp : s.checkProjectName m.config.name = .ok () ↔ packageFault? m.config.name = none := by
    unfold Scope.checkProjectName
    cases packageFault? m.config.name <;> simp
  rw [check, bind_eq_ok_iff, hp, forM_eq_ok_iff]
  simp only [checkComponent_eq_ok_iff]
  exact ⟨fun h => ⟨h.1, h.2⟩, fun h => ⟨h.project, h.components⟩⟩

/-- **A text is accepted** exactly as the manifest of its document, if that is valid. -/
theorem parse_eq_ok_iff {text : String} {m : Manifest} :
    parse text = .ok m ↔ ∃ v, Toml.parse? text = some v ∧ ofJson? v = some m ∧ Valid m := by
  unfold parse
  cases hv : Toml.parse? text with
  | none => simp
  | some v =>
    cases hm : ofJson? v with
    | none => simp [hm]
    | some m' =>
      simp only [Option.bind_some, hm, Option.some.injEq, exists_eq_left']
      rw [← check_eq_ok_iff (s := .ofText text)]
      cases hc : check (.ofText text) m' with
      | error f =>
        simp only [bind, Except.bind, reduceCtorEq, false_iff, not_and]
        rintro rfl h
        rw [hc] at h
        cases h
      | ok u =>
        simp only [bind, Except.bind, pure, Except.pure, Except.ok.injEq]
        constructor
        · rintro rfl
          exact ⟨rfl, hc⟩
        · exact fun h => h.1

/-- A text is accepted by way of its sections and the document that they make. -/
theorem parse_of_sections {text : String} {sections : List Toml.Section} {v : Json} {m : Manifest}
    (hlines : Toml.lines? (3 * ((Toml.dropMark text.toList).length + 1))
      (Toml.dropMark text.toList) = some ([], sections))
    (hbuild : Toml.build? [] sections = some v) (hm : ofJson? v = some m) {s : Scope}
    (hcheck : check s m = .ok ()) : parse text = .ok m :=
  parse_eq_ok_iff.2 ⟨v, Toml.parse?_eq_some_iff.2 ⟨[], sections, hlines, hbuild⟩, hm,
    check_eq_ok_iff.1 hcheck⟩

/-- A text that declares, for the browser, a tag of a module and a tag without one. -/
def sampleText : String :=
  "[components.Card.h5]\ncomponent = \"View\"\nimport = \"cards\"\n" ++
    "[components.Panel.h5]\ncomponent = \"Section\"\n" ++
    "[project]\nname = \"site\"\nplatform = \"h5\"\n"

/-- What `sampleText` declares. -/
def sample : Manifest where
  config := ⟨"site", .initial, .h5, Project.Config.defaultOutputDir, none, none, none, [], ∅⟩
  components := .ofList [
    ("Card", ⟨false, .ofList [(.h5, .imported "View" "cards")]⟩),
    ("Panel", ⟨false, .ofList [(.h5, .intrinsic "Section")]⟩)]

/-- The sections of `sampleText`. -/
def sampleSections : List Toml.Section := [
  ⟨false, ["components", "Card", "h5"],
    [⟨["component"], .string "View"⟩, ⟨["import"], .string "cards"⟩]⟩,
  ⟨false, ["components", "Panel", "h5"], [⟨["component"], .string "Section"⟩]⟩,
  ⟨false, ["project"], [⟨["name"], .string "site"⟩, ⟨["platform"], .string "h5"⟩]⟩]

/-- The document that the sections of `sampleText` make. -/
def sampleDocument : Json := .object [
  ("components", .object [
    ("Card", .object [
      ("h5", .object [("component", .string "View"), ("import", .string "cards")])]),
    ("Panel", .object [("h5", .object [("component", .string "Section")])])]),
  ("project", .object [("name", .string "site"), ("platform", .string "h5")])]

/-- The lines of the sample manifest are its sections. -/
theorem lines?_sampleText :
    Toml.lines? (3 * ((Toml.dropMark sampleText.toList).length + 1))
      (Toml.dropMark sampleText.toList) = some ([], sampleSections) := by
  cbv

/-- The sections of the sample manifest make its document. -/
theorem build?_sampleSections : Toml.build? [] sampleSections = some sampleDocument := by
  cbv

/-- The sample manifest is accepted. -/
theorem parse_sampleText : parse sampleText = .ok sample := by
  have hcheck : check (.ofText "") sample = .ok () := rfl
  exact parse_of_sections lines?_sampleText build?_sampleSections rfl hcheck

end Manifest
end Pagewright
