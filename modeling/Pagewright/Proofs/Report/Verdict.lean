/-
# What a valid check says of generation

A check reports what the lints find on the pages of a project, and the project is valid if
they find no error. A check is advice: it does not stop generation, and a type without a rule,
on which generation fails, gets a warning.

| finding on a page | severity | generation of the page |
| --- | --- | --- |
| a blank name, an empty id | error | goes on |
| no component tree | error | fails |
| an empty type | error | fails, unless the empty type has a rule |
| another type without a rule | warning | fails |

What a valid check leaves open are its warnings, each for a node that cannot be lowered. So
the project is generated exactly if there is none, and otherwise generation fails on a node
that a warning is for (`generate_of_isValid`). Whatever a manifest declares, some pages make a
project that is valid and is not generated (`exists_valid_not_generated`).
-/

import Pagewright.Command.Run
import Pagewright.Proofs.Generation.Directories
import Pagewright.Proofs.Lint.Foretelling
import Pagewright.Proofs.Manifest.Accepted
import Pagewright.Proofs.Registry.Views

namespace Pagewright

open Component (map_snd_walk)
open Generation (Failure fault? fault?_eq_none_iff generateProject generateProject_eq_error
  walk_of_components)

/-! ## The severities of findings -/

namespace Lint

variable {s : Subject}

/-- **No error** is found on a page exactly if it has a name and a component tree, and each of
its nodes has an id and a type. -/
theorem forall_validate_ne_error_iff :
    (∀ d ∈ validate s, d.severity ≠ .error) ↔
      Text.trim s.page.name.toList ≠ [] ∧ s.page.components ≠ none ∧
        ∀ e ∈ s.page.walk, e.2.id ≠ "" ∧ e.2.type ≠ "" := by
  constructor
  · intro h
    refine ⟨fun hname => ?_, fun htree => ?_, fun e he => ⟨fun hid => ?_, fun htype => ?_⟩⟩
    · exact h _ (mem_validate_iff.2 (.inl (mem_pageName_iff.2 ⟨hname, rfl⟩))) rfl
    · exact h _ (mem_validate_iff.2 (.inr (.inl (mem_componentTree_iff.2 ⟨htree, rfl⟩)))) rfl
    · exact h _ (mem_validate_iff.2 (.inr (.inr (.inl
        (mem_componentIdentity_iff.2 ⟨e, he, .inl ⟨hid, rfl⟩⟩))))) rfl
    · exact h _ (mem_validate_iff.2 (.inr (.inr (.inl
        (mem_componentIdentity_iff.2 ⟨e, he, .inr ⟨htype, rfl⟩⟩))))) rfl
  · rintro ⟨hname, htree, hnodes⟩ d hd
    rcases mem_validate_iff.1 hd with h | h | h | h
    · exact absurd (mem_pageName_iff.1 h).1 hname
    · exact absurd (mem_componentTree_iff.1 h).1 htree
    · obtain ⟨e, he, ⟨hid, -⟩ | ⟨htype, -⟩⟩ := mem_componentIdentity_iff.1 h
      · exact absurd hid (hnodes e he).1
      · exact absurd htype (hnodes e he).2
    · obtain ⟨e, -, -, rfl⟩ := mem_unsupportedComponent_iff.1 h
      exact Severity.noConfusion

/-- **No warning** is found on a page exactly if every type of a node that is not empty has a
rule. -/
theorem forall_validate_ne_warning_iff :
    (∀ d ∈ validate s, d.severity ≠ .warning) ↔
      ∀ e ∈ s.page.walk, e.2.type ≠ "" → (s.registry.get? e.2.type s.platform).isSome := by
  constructor
  · intro h e he htype
    rw [Option.isSome_iff_ne_none]
    intro hrule
    exact h _ (mem_validate_iff.2 (.inr (.inr (.inr
      (mem_unsupportedComponent_iff.2 ⟨e, he, ⟨htype, hrule⟩, rfl⟩))))) rfl
  · intro h d hd
    rcases mem_validate_iff.1 hd with hd | hd | hd | hd
    · obtain ⟨-, rfl⟩ := mem_pageName_iff.1 hd
      exact Severity.noConfusion
    · obtain ⟨-, rfl⟩ := mem_componentTree_iff.1 hd
      exact Severity.noConfusion
    · obtain ⟨e, -, ⟨-, rfl⟩ | ⟨-, rfl⟩⟩ := mem_componentIdentity_iff.1 hd <;>
        exact Severity.noConfusion
    · obtain ⟨e, he, ⟨htype, hrule⟩, -⟩ := mem_unsupportedComponent_iff.1 hd
      have hsome := h e he htype
      rw [hrule] at hsome
      cases hsome

/-- **Without errors** a page can be generated exactly if no warning is found on it. -/
theorem fault?_eq_none_iff_of_ne_error (h : ∀ d ∈ validate s, d.severity ≠ .error) :
    fault? s.registry s.platform s.page = none ↔ ∀ d ∈ validate s, d.severity ≠ .warning := by
  obtain ⟨-, htree, hnodes⟩ := forall_validate_ne_error_iff.1 h
  obtain ⟨root, hroot⟩ := Option.ne_none_iff_exists'.1 htree
  rw [walk_of_components hroot] at hnodes
  rw [fault?_eq_none_iff, forall_validate_ne_warning_iff, hroot, walk_of_components hroot]
  simp only [Option.some.injEq, exists_eq_left']
  rw [← map_snd_walk, List.forall_mem_map]
  exact forall₂_congr fun e he =>
    ⟨fun hrule _ => hrule, fun hrule => hrule (hnodes e he).2⟩

end Lint

/-! ## The report on a project -/

namespace Report

open Lint (validate)

variable {path : String} {r : Registry} {p : Platform} {pages : List Page}

/-- What is reported of pages is what the lints find on each of them, called by its place and its
name. -/
theorem mem_pageFindings_iff {index : Nat} {e : Severity × String} :
    e ∈ pageFindings r p index pages ↔
      ∃ i page, pages[i]? = some page ∧ ∃ d ∈ validate ⟨page, p, r⟩,
        (d.severity, findingText (pageLabel (index + i) page) d) = e := by
  induction pages generalizing index with
  | nil => simp [pageFindings]
  | cons page pages ih =>
    rw [pageFindings, List.mem_append, List.mem_map, ih]
    constructor
    · rintro (h | ⟨i, page', hi, h⟩)
      · exact ⟨0, page, rfl, h⟩
      · refine ⟨i + 1, page', hi, ?_⟩
        rwa [← Nat.add_assoc, Nat.add_right_comm]
    · rintro ⟨_ | i, page', hi, h⟩
      · obtain rfl := Option.some.inj hi
        exact .inl h
      · refine .inr ⟨i, page', hi, ?_⟩
        rwa [Nat.add_right_comm, Nat.add_assoc]

/-- A severity that is not reported is that of no finding. -/
theorem pageFindings_eq_nil_iff {severity : Severity} :
    ((pageFindings r p 0 pages).filter fun e => e.1 = severity).map Prod.snd = [] ↔
      ∀ page ∈ pages, ∀ d ∈ validate ⟨page, p, r⟩, d.severity ≠ severity := by
  rw [List.map_eq_nil_iff, List.filter_eq_nil_iff]
  constructor
  · intro h page hpage d hd hseverity
    obtain ⟨i, hi⟩ := List.mem_iff_getElem?.1 hpage
    exact h _ (mem_pageFindings_iff.2 ⟨i, page, hi, d, hd, rfl⟩) (by simpa using hseverity)
  · intro h e he hseverity
    obtain ⟨i, page, hi, d, hd, rfl⟩ := mem_pageFindings_iff.1 he
    exact h page (List.mem_of_getElem? hi) d hd (by simpa using hseverity)

/-- A check is valid exactly if no page has an error. -/
theorem isValid_check_iff :
    (check path r pages p).isValid ↔
      ∀ page ∈ pages, ∀ d ∈ validate ⟨page, p, r⟩, d.severity ≠ .error := by
  rw [← pageFindings_eq_nil_iff, Check.isValid, List.isEmpty_iff]
  rfl

/-- A check has no warning exactly if no page has one. -/
theorem warnings_check_eq_nil_iff :
    (check path r pages p).warnings = [] ↔
      ∀ page ∈ pages, ∀ d ∈ validate ⟨page, p, r⟩, d.severity ≠ .warning :=
  pageFindings_eq_nil_iff

/-- The message of a warning on a page is reported. -/
theorem mem_warnings_check {i : Nat} {page : Page} {d : Diagnostic} (hi : pages[i]? = some page)
    (hd : d ∈ validate ⟨page, p, r⟩) (hseverity : d.severity = .warning) :
    findingText (pageLabel i page) d ∈ (check path r pages p).warnings := by
  refine List.mem_map.2 ⟨(d.severity, findingText (pageLabel i page) d), ?_, rfl⟩
  refine List.mem_filter.2 ⟨mem_pageFindings_iff.2 ⟨i, page, hi, d, hd, ?_⟩, ?_⟩
  · rw [Nat.zero_add]
  · simpa using hseverity

end Report

/-! ## Checking and generating -/

namespace Workspace

open Generation (assigned_freeName exists_generateProject_iff freeName isSegment_directoryName)
open Lint (finding unsupportedMessage validate mem_validate_iff mem_unsupportedComponent_iff)
open Report (findingText pageLabel)

/-- The report of a check on a workspace. -/
def check (w : Workspace) (p : Platform) : Report.Check :=
  Report.check w.file.path w.file.registry w.pages p

/-- A check succeeds, as a command, exactly if it is valid. -/
theorem code_runCheck_eq_zero_iff {w : Workspace} {platform : Option Platform} :
    (Command.runCheck (m := Id) platform w).run.code = 0 ↔
      (w.check (w.platform platform)).isValid := by
  change (if (w.check (w.platform platform)).isValid then 0 else 1) = 0 ↔ _
  split <;> simp [*]

variable {w : Workspace} {p : Platform}

/-- **A valid project** is generated exactly if the check has no warning. -/
theorem exists_generate_iff_of_isValid (h : (w.check p).isValid) :
    (∃ code, w.generate p = .ok code) ↔ (w.check p).warnings = [] := by
  have hvalid := Report.isValid_check_iff.1 h
  rw [generate, Generation.exists_generateProject_iff, check, Report.warnings_check_eq_nil_iff]
  exact forall₂_congr fun page hpage =>
    Lint.fault?_eq_none_iff_of_ne_error (s := ⟨page, p, w.file.registry⟩) (hvalid page hpage)

/-- **A valid project that is not generated** fails on a node that the check warned of. -/
theorem exists_warning_of_generate_eq_error (h : (w.check p).isValid) {f : Failure}
    (hf : w.generate p = .error f) :
    ∃ i page e, w.pages[i]? = some page ∧ e ∈ page.walk ∧ f = .on p (.unsupported e.2.type p) ∧
      findingText (pageLabel i page)
        (finding .warning (unsupportedMessage e.2.type p) e.1.toText) ∈ (w.check p).warnings := by
  obtain ⟨before, page, after, cause, hsplit, -, hcause, rfl⟩ := generateProject_eq_error hf
  have hi : w.pages[before.length]? = some page := by
    rw [hsplit, List.getElem?_append_right (Nat.le_refl _), Nat.sub_self]
    rfl
  obtain ⟨-, htree, hnodes⟩ := Lint.forall_validate_ne_error_iff.1
    (Report.isValid_check_iff.1 h page (List.mem_of_getElem? hi))
  obtain ⟨root, hroot⟩ := Option.ne_none_iff_exists'.1 htree
  rw [fault?, hroot] at hcause
  obtain ⟨c, hc, rfl⟩ := Option.map_eq_some_iff.1 hcause
  rw [Generation.firstUnsupported?_eq_find?_walk] at hc
  obtain ⟨e, he, rfl⟩ := Option.map_eq_some_iff.1 hc
  have hwalk : e ∈ page.walk := by
    rw [walk_of_components hroot]
    exact List.mem_of_find?_eq_some he
  have hrule : w.file.registry.get? e.2.type p = none := by
    simpa using List.find?_some he
  refine ⟨before.length, page, e, hi, hwalk, rfl, Report.mem_warnings_check hi ?_ rfl⟩
  exact mem_validate_iff.2 (.inr (.inr (.inr (mem_unsupportedComponent_iff.2
    ⟨e, hwalk, ⟨(hnodes e hwalk).2, hrule⟩, rfl⟩))))

/-- **What a valid check says of generation.** If the check of a project for a platform is valid,
the project is generated for the platform exactly if the check has no warning. Otherwise
generation fails for the type of a node of some page, and the check has the warning that this
type is not supported, with the place of the page and the location of the node. -/
theorem generate_of_isValid (h : (w.check p).isValid) :
    ((∃ code, w.generate p = .ok code) ↔ (w.check p).warnings = []) ∧
    ∀ f, w.generate p = .error f →
      ∃ i page e, w.pages[i]? = some page ∧ e ∈ page.walk ∧
        f = .on p (.unsupported e.2.type p) ∧
        findingText (pageLabel i page)
          (finding .warning (unsupportedMessage e.2.type p) e.1.toText) ∈ (w.check p).warnings :=
  ⟨exists_generate_iff_of_isValid h, fun _ hf => exists_warning_of_generate_eq_error h hf⟩

/-- A page with one node of a type. -/
def singlePage (type : String) : Page := ⟨"Home", none, some (.leaf "root" type)⟩

/-- A page with one node of a type that is not empty has no errors. -/
theorem isValid_singlePage {file : ManifestFile} {type : String} (h : type ≠ "") :
    (check ⟨file, [singlePage type]⟩ p).isValid := by
  refine Report.isValid_check_iff.2 fun page hpage => ?_
  obtain rfl := List.mem_singleton.1 hpage
  have hname : Text.trim "Home".toList ≠ [] := by decide
  have hid : "root" ≠ "" := by decide
  refine Lint.forall_validate_ne_error_iff.2 ⟨hname, Option.some_ne_none _, fun e he => ?_⟩
  obtain rfl := List.mem_singleton.1 he
  exact ⟨hid, h⟩

/-- **No manifest excludes it:** whatever it declares, some type has no rule, and a page with a
node of this type makes a project that is valid and is not generated. -/
theorem exists_valid_not_generated (file : ManifestFile) (p : Platform) :
    ∃ pages, (check ⟨file, pages⟩ p).isValid ∧ ∀ code, generate ⟨file, pages⟩ p ≠ .ok code := by
  have hassigned := assigned_freeName file.registry.types (Naming.directoryName "widget")
  set type := freeName file.registry.types (Naming.directoryName "widget")
  have hrule : file.registry.get? type p = none := by
    have hunknown := mt Registry.mem_types_iff.2 hassigned.not_mem
    rw [Registry.get?_eq_resolved?, Option.not_isSome_iff_eq_none.1 hunknown, Option.bind_none]
  have hne := (hassigned.isSegment (isSegment_directoryName _)).ne_empty
  refine ⟨[singlePage type], isValid_singlePage hne, fun code hcode => ?_⟩
  have hfault := (exists_generateProject_iff _ _ _ _).1 ⟨code, hcode⟩ _ (.head _)
  obtain ⟨root, hroot, hsome⟩ := fault?_eq_none_iff.1 hfault
  obtain rfl := Option.some.inj hroot
  have hknown : (file.registry.get? type p).isSome := hsome _ (.head _)
  rw [hrule] at hknown
  cases hknown

/-- The text of a manifest of a native app with one page. -/
def shopText : String :=
  "[project]\nname = \"shop\"\nplatform = \"rn\"\npages = [\"home.json\"]\n"

/-- What `shopText` declares. -/
def shop : Manifest where
  config := ⟨"shop", .initial, .rn, Project.Config.defaultOutputDir, none, none, none,
    ["home.json"], ∅⟩
  components := ∅

/-- The pairs of the section of `shopText`. -/
def shopPairs : List Toml.Pair := [⟨["name"], .string "shop"⟩, ⟨["platform"], .string "rn"⟩,
  ⟨["pages"], .array [.string "home.json"]⟩]

/-- The document that the section of `shopText` makes. -/
def shopDocument : Json := .object [("project", .object [("name", .string "shop"),
  ("pages", .array [.string "home.json"]), ("platform", .string "rn")])]

/-- The manifest of the shop is accepted. -/
theorem parse_shopText : Manifest.parse shopText = .ok shop := by
  have hlines : Toml.lines? (3 * ((Toml.dropMark shopText.toList).length + 1))
      (Toml.dropMark shopText.toList) = some ([], [⟨false, ["project"], shopPairs⟩]) := by
    cbv
  have hbuild : Toml.build? [] [⟨false, ["project"], shopPairs⟩] = some shopDocument := by
    have htree : Toml.build? [] [⟨false, ["project"], shopPairs⟩] =
        some (Toml.sortedObject (Toml.fieldsOf [("project", .table .written
          [("name", .value (.string "shop")), ("platform", .value (.string "rn")),
            ("pages", .value (.array [.string "home.json"]))])])) := rfl
    rw [htree]
    simp [Toml.fieldsOf, Toml.Tree.toJson, Toml.sortedObject, List.mergeSort, shopDocument]
  have hcheck : Manifest.check (.ofText "") shop = .ok () := rfl
  exact Manifest.parse_of_sections hlines hbuild rfl hcheck

/-- The project of `shopText`, whose page is of a type. -/
def shopWith (type : String) : Workspace := ⟨⟨"lowgen.toml", shopText, shop⟩, [singlePage type]⟩

/-- The hypothesis of `generate_of_isValid` is satisfiable: with a container, the check of the
project has no warning and the project is generated. -/
theorem shopWith_container_generated :
    ((shopWith "Container").check .rn).isValid ∧
      ((shopWith "Container").check .rn).warnings = [] ∧
      ∃ code, (shopWith "Container").generate .rn = .ok code := by
  have hvalid : ((shopWith "Container").check .rn).isValid := isValid_singlePage (by decide)
  have hwarnings : ((shopWith "Container").check .rn).warnings = [] := by
    refine Report.warnings_check_eq_nil_iff.2 fun page hpage => ?_
    obtain rfl := List.mem_singleton.1 hpage
    refine Lint.forall_validate_ne_warning_iff.2 fun e he _ => ?_
    obtain rfl := List.mem_singleton.1 he
    rfl
  exact ⟨hvalid, hwarnings, (generate_of_isValid hvalid).1.2 hwarnings⟩

/-- **A valid check does not promise that a project is generated:** the manifest is accepted and
names one page. With a swiper on it the check succeeds, with nothing but a warning, and generation
fails. -/
theorem shopWith_swiper_not_generated :
    Manifest.parse shopText = .ok shop ∧ shop.config.pages = ["home.json"] ∧
      ((shopWith "Swiper").check .rn).isValid ∧
      ((shopWith "Swiper").check .rn).warnings =
      ["page 'Home': component type 'Swiper' is not supported on React Native\n  --> components"] ∧
      (Command.runCheck (m := Id) none (shopWith "Swiper")).run.code = 0 ∧
      (shopWith "Swiper").generate .rn = .error (.on .rn (.unsupported "Swiper" .rn)) := by
  have hvalid : ((shopWith "Swiper").check .rn).isValid := isValid_singlePage (by decide)
  have hfails : (shopWith "Swiper").generate .rn =
      .error (.on .rn (.unsupported "Swiper" .rn)) := rfl
  exact ⟨parse_shopText, rfl, hvalid, rfl, code_runCheck_eq_zero_iff.2 hvalid, hfails⟩

end Workspace
end Pagewright
