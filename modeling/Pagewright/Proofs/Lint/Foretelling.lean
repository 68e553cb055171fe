/-
# What the lints foretell

Generation fails on the first node of a tree whose type has no rule. Two lints look for such
nodes, and each leaves some of them to the other:

| type of the node | found by |
| --- | --- |
| empty | the lint of identities, with an error |
| another without a rule | the lint of unsupported components, with a warning |

So every node without a rule is found (`exists_alarm?`), and if the empty type has no rule, no
node with a rule is (`get?_of_alarm?`). Each finding names the location of its node, and
locations ascend in the order of the tree, while one lint runs after the other. Hence the
findings foretell not only whether generation fails but also at which node: at the one with the
smallest location (`generatePage_foretold`). A page without findings can be generated whatever
rules there are (`exists_generatePage_of_validate`).
-/

import Pagewright.Lint.Basic
import Pagewright.Proofs.Component.Locations
import Pagewright.Proofs.Generation.Outcome

namespace Pagewright

open Component (Location locate?_of_mem_walk ascending_walk map_snd_walk)
open Lowering (firstUnsupported?)

namespace Lint

variable {s : Subject} {d : Diagnostic} {p : Platform}

/-! ## What is found -/

/-- A check on nodes finds what it finds on some node, at the location of the node. -/
theorem mem_onNodes_iff {check : Subject → Component → List (Severity × String)} :
    d ∈ onNodes check s ↔
      ∃ e ∈ s.page.walk, ∃ found ∈ check s e.2, d = finding found.1 found.2 e.1.toText := by
  simp only [onNodes, List.mem_flatMap, List.mem_map, eq_comm]

/-- A blank page name is found, and nothing else by this lint. -/
theorem mem_pageName_iff :
    d ∈ pageName.findings s ↔
      Text.trim s.page.name.toList = [] ∧
        d = finding .error "page name cannot be empty" "name" := by
  simp [pageName]

/-- A missing tree is found, and nothing else by this lint. -/
theorem mem_componentTree_iff :
    d ∈ componentTree.findings s ↔
      s.page.components = none ∧
        d = finding .error "page must contain a component tree" "components" := by
  cases h : s.page.components <;> simp [componentTree, h]

/-- Empty ids and empty types are found, each at its node. -/
theorem mem_componentIdentity_iff :
    d ∈ componentIdentity.findings s ↔
      ∃ e ∈ s.page.walk,
        e.2.id = "" ∧ d = finding .error "component id cannot be empty" e.1.toText ∨
        e.2.type = "" ∧ d = finding .error "component type cannot be empty" e.1.toText := by
  rw [componentIdentity, mem_onNodes_iff]
  refine exists_congr fun e => and_congr_right fun _ => ?_
  by_cases hid : e.2.id = "" <;> by_cases htype : e.2.type = "" <;>
    simp [missingIdentity, hid, htype]

/-- Types without a rule are found, each at its node. -/
theorem mem_unsupportedComponent_iff :
    d ∈ unsupportedComponent.findings s ↔
      ∃ e ∈ s.page.walk,
        (e.2.type ≠ "" ∧ s.registry.get? e.2.type s.platform = none) ∧
          d = finding .warning (unsupportedMessage e.2.type s.platform) e.1.toText := by
  rw [unsupportedComponent, mem_onNodes_iff]
  refine exists_congr fun e => and_congr_right fun _ => ?_
  by_cases htype : e.2.type = "" <;> cases hrule : s.registry.get? e.2.type s.platform <;>
    simp [Registry.isSupported, htype, hrule]

/-- **What is found** of a page: each lint finds what it looks for, and nothing else is found. -/
theorem mem_validate_iff :
    d ∈ validate s ↔
      d ∈ pageName.findings s ∨ d ∈ componentTree.findings s ∨
        d ∈ componentIdentity.findings s ∨ d ∈ unsupportedComponent.findings s := by
  simp [validate, run, standard, structural]

/-! ## The findings that foretell a failure -/

/-- A finding that foretells a failure of generation: a type is empty, or it is not supported. -/
def Foretells (p : Platform) (d : Diagnostic) : Prop :=
  d.severity = .error ∧ d.message = "component type cannot be empty" ∨
    d.severity = .warning ∧ ∃ type, d.message = unsupportedMessage type p

/-- The location that a finding names. -/
def place? (d : Diagnostic) : Option Location := d.location.bind Location.ofText?

/-- Of the errors that of an empty type foretells a failure. -/
theorem foretells_error_iff {message location : String} :
    Foretells p (finding .error message location) ↔ message = "component type cannot be empty" := by
  simp [Foretells, finding]

/-- Of the warnings those of unsupported types foretell a failure. -/
theorem foretells_warning_iff {message location : String} :
    Foretells p (finding .warning message location) ↔
      ∃ type, message = unsupportedMessage type p := by
  simp [Foretells, finding]

/-- What is found of the type of a node. -/
def alarm? (s : Subject) (e : Location × Component) : Option Diagnostic :=
  if e.2.type = "" then some (finding .error "component type cannot be empty" e.1.toText)
  else
    match s.registry.get? e.2.type s.platform with
    | some _ => none
    | none => some (finding .warning (unsupportedMessage e.2.type s.platform) e.1.toText)

/-- A node is alarming if its type is empty or has no rule. -/
theorem alarm?_eq_some_iff {e : Location × Component} :
    alarm? s e = some d ↔
      e.2.type = "" ∧ d = finding .error "component type cannot be empty" e.1.toText ∨
      (e.2.type ≠ "" ∧ s.registry.get? e.2.type s.platform = none) ∧
        d = finding .warning (unsupportedMessage e.2.type s.platform) e.1.toText := by
  by_cases htype : e.2.type = "" <;> cases hrule : s.registry.get? e.2.type s.platform <;>
    simp [alarm?, htype, hrule, eq_comm]

/-- **What is found of types** is what foretells a failure. -/
theorem foretelling_iff :
    d ∈ validate s ∧ Foretells s.platform d ↔ ∃ e ∈ s.page.walk, alarm? s e = some d := by
  simp only [mem_validate_iff, alarm?_eq_some_iff]
  constructor
  · rintro ⟨h | h | h | h, hd⟩
    · obtain ⟨-, rfl⟩ := mem_pageName_iff.1 h
      exact absurd (foretells_error_iff.1 hd) (by decide)
    · obtain ⟨-, rfl⟩ := mem_componentTree_iff.1 h
      exact absurd (foretells_error_iff.1 hd) (by decide)
    · obtain ⟨e, he, ⟨-, rfl⟩ | htype⟩ := mem_componentIdentity_iff.1 h
      · exact absurd (foretells_error_iff.1 hd) (by decide)
      · exact ⟨e, he, .inl htype⟩
    · obtain ⟨e, he, hrule⟩ := mem_unsupportedComponent_iff.1 h
      exact ⟨e, he, .inr hrule⟩
  · rintro ⟨e, he, ⟨htype, rfl⟩ | ⟨hrule, rfl⟩⟩
    · exact ⟨.inr (.inr (.inl (mem_componentIdentity_iff.2 ⟨e, he, .inr ⟨htype, rfl⟩⟩))),
        foretells_error_iff.2 rfl⟩
    · exact ⟨.inr (.inr (.inr (mem_unsupportedComponent_iff.2 ⟨e, he, hrule, rfl⟩))),
        foretells_warning_iff.2 ⟨_, rfl⟩⟩

/-- It names the location of the node. -/
theorem place?_of_alarm? {e : Location × Component} (h : alarm? s e = some d) :
    place? d = some e.1 := by
  rcases alarm?_eq_some_iff.1 h with ⟨-, rfl⟩ | ⟨-, rfl⟩
  · exact Location.ofText?_toText e.1
  · exact Location.ofText?_toText e.1

/-- **Every node whose type has no rule is found.** -/
theorem exists_alarm? {e : Location × Component}
    (h : s.registry.get? e.2.type s.platform = none) : ∃ d, alarm? s e = some d := by
  by_cases htype : e.2.type = ""
  · exact ⟨_, alarm?_eq_some_iff.2 (.inl ⟨htype, rfl⟩)⟩
  · exact ⟨_, alarm?_eq_some_iff.2 (.inr ⟨⟨htype, h⟩, rfl⟩)⟩

/-- **No other node is found,** if the empty type has no rule. -/
theorem get?_of_alarm? (hr : s.registry.get? "" s.platform = none) {e : Location × Component}
    (h : alarm? s e = some d) : s.registry.get? e.2.type s.platform = none := by
  rcases alarm?_eq_some_iff.1 h with ⟨htype, -⟩ | ⟨⟨-, hrule⟩, -⟩
  · rw [htype, hr]
  · exact hrule

/-- The first in the order of the tree of the findings that foretell a failure, and the location
that it names. -/
structure IsFirst (findings : List Diagnostic) (p : Platform) (d : Diagnostic)
    (location : Location) : Prop where
  mem : d ∈ findings
  foretells : Foretells p d
  place : place? d = some location
  first : ∀ d' ∈ findings, Foretells p d' →
    d' = d ∨ ∃ location', place? d' = some location' ∧ location < location'

end Lint

namespace Generation

open Lint

variable {r : Registry} {p : Platform} {page : Page} {root : Component}

theorem walk_of_components (hroot : page.components = some root) : page.walk = root.walk := by
  rw [Page.walk, hroot]

/-- **A page without findings** can be generated. -/
theorem exists_generatePage_of_validate (h : validate ⟨page, p, r⟩ = []) (name : String) :
    ∃ output, generatePage r page p name = .ok output := by
  have hnone (d : Diagnostic) : d ∉ validate ⟨page, p, r⟩ := by
    rw [h]
    exact List.not_mem_nil
  rw [exists_generatePage_iff, fault?_eq_none_iff]
  cases hroot : page.components with
  | none =>
    exact absurd (mem_validate_iff.2 (.inr (.inl (mem_componentTree_iff.2 ⟨hroot, rfl⟩)))) (hnone _)
  | some root =>
    refine ⟨root, rfl, ?_⟩
    rw [← map_snd_walk, List.forall_mem_map]
    intro e he
    rw [Option.isSome_iff_ne_none]
    intro hrule
    obtain ⟨d, hd⟩ := exists_alarm? (s := ⟨page, p, r⟩) hrule
    exact hnone d (foretelling_iff.2 ⟨e, by rwa [walk_of_components hroot], hd⟩).1

/-- The node on which generation fails is the first of the walk whose type has no rule. -/
theorem firstUnsupported?_eq_find?_walk :
    firstUnsupported? r p root.descendants =
      (root.walk.find? fun e => (r.get? e.2.type p).isNone).map Prod.snd := by
  rw [firstUnsupported?, ← map_snd_walk, List.find?_map]
  rfl

/-- **The first finding** that foretells a failure leads to the node on which generation
fails. -/
theorem exists_isFirst (hr : r.get? "" p = none) (hroot : page.components = some root)
    {c : Component} (h : firstUnsupported? r p root.descendants = some c) :
    ∃ d location, IsFirst (validate ⟨page, p, r⟩) p d location ∧
      root.locate? location = some c := by
  rw [firstUnsupported?_eq_find?_walk] at h
  obtain ⟨e, hfind, rfl⟩ := Option.map_eq_some_iff.1 h
  obtain ⟨hnone, before, after, hwalk, hbefore⟩ := List.find?_eq_some_iff_append.1 hfind
  have he : e ∈ root.walk := List.mem_of_find?_eq_some hfind
  obtain ⟨d, hd⟩ := exists_alarm? (s := ⟨page, p, r⟩) (Option.isNone_iff_eq_none.1 hnone)
  obtain ⟨hmem, hforetells⟩ :=
    foretelling_iff.2 ⟨e, by rwa [walk_of_components hroot], hd⟩
  refine ⟨d, e.1, ⟨hmem, hforetells, place?_of_alarm? hd, ?_⟩, locate?_of_mem_walk he⟩
  intro d' hmem' hforetells'
  obtain ⟨e', he', hd'⟩ := foretelling_iff.1 ⟨hmem', hforetells'⟩
  have hnone' : r.get? e'.2.type p = none := get?_of_alarm? hr hd'
  have hascending := root.ascending_walk
  rw [hwalk, List.pairwise_append, List.pairwise_cons] at hascending
  change e' ∈ page.walk at he'
  rw [walk_of_components hroot, hwalk, List.mem_append, List.mem_cons] at he'
  rcases he' with he' | rfl | he'
  · -- The nodes in front have rules, so nothing is found of their types.
    have hsome := hbefore e' he'
    rw [hnone'] at hsome
    cases hsome
  · exact .inl (Option.some.inj (hd'.symm.trans hd))
  · exact .inr ⟨e'.1, place?_of_alarm? hd', hascending.2.1.1 e' he'⟩

/-- **The lints foretell generation.** Where the empty type has no rule, a page with a tree cannot
be generated exactly if its findings have one of an empty type or of a type that is not
supported. The failure is then for the type of a node, and the node is found by following the
location of the first such finding in the order of the tree. A page without findings can be
generated. -/
theorem generatePage_foretold (hr : r.get? "" p = none) (hroot : page.components = some root)
    (name : String) :
    let findings := validate ⟨page, p, r⟩
    ((∃ f, generatePage r page p name = .error f) ↔ ∃ d ∈ findings, Foretells p d) ∧
      (∀ f, generatePage r page p name = .error f →
        ∃ d location c, IsFirst findings p d location ∧ root.locate? location = some c ∧
          f = .on p (.unsupported c.type p)) ∧
      (findings = [] → ∃ output, generatePage r page p name = .ok output) := by
  intro findings
  have hfault : fault? r p page =
      (firstUnsupported? r p root.descendants).map fun c => .unsupported c.type p := by
    rw [fault?, hroot]
  have hfirst : ∀ f, generatePage r page p name = .error f →
      ∃ d location c, IsFirst findings p d location ∧ root.locate? location = some c ∧
        f = .on p (.unsupported c.type p) := by
    intro f hf
    obtain ⟨cause, hcause, rfl⟩ := generatePage_eq_error_iff.1 hf
    obtain ⟨c, hc, rfl⟩ := Option.map_eq_some_iff.1 (hfault ▸ hcause)
    obtain ⟨d, location, hd, hlocate⟩ := exists_isFirst hr hroot hc
    exact ⟨d, location, c, hd, hlocate, rfl⟩
  refine ⟨⟨?_, ?_⟩, hfirst, fun h => exists_generatePage_of_validate h name⟩
  · rintro ⟨f, hf⟩
    obtain ⟨d, location, c, hd, -⟩ := hfirst f hf
    exact ⟨d, hd.mem, hd.foretells⟩
  · rintro ⟨d, hd⟩
    obtain ⟨e, he, halarm⟩ := foretelling_iff.1 hd
    have hnone : r.get? e.2.type p = none := get?_of_alarm? hr halarm
    cases hg : generatePage r page p name with
    | error f => exact ⟨f, rfl⟩
    | ok output =>
      obtain ⟨root', hroot', hsome, -⟩ := generatePage_eq_ok_iff.1 hg
      obtain rfl := Option.some.inj (hroot.symm.trans hroot')
      rw [← map_snd_walk, List.forall_mem_map] at hsome
      have hrule := hsome e (by rwa [← walk_of_components hroot])
      rw [hnone] at hrule
      cases hrule

/-- A tree with two types that have no rule in a native app: `Swiper`, and behind it the empty
type. -/
def swiperRoot : Component :=
  { Component.leaf "root" "Container" with
    children := [.leaf "title" "Text",
      { Component.leaf "box" "Container" with children := [.leaf "slides" "Swiper"] },
      .leaf "rest" ""] }

/-- The hypotheses of `generatePage_foretold` are satisfiable, with a page that cannot be
generated: its first finding leads to the node of type `Swiper`. -/
theorem swiperRoot_foretold :
    Registry.standard.get? "" .rn = none ∧
      ∃ d location c,
        IsFirst (validate ⟨⟨"home", none, some swiperRoot⟩, .rn, .standard⟩) .rn d location ∧
        swiperRoot.locate? location = some c ∧ c.type = "Swiper" ∧
        generatePage Registry.standard ⟨"home", none, some swiperRoot⟩ .rn "home" =
          .error (.on .rn (.unsupported c.type .rn)) := by
  have hr : Registry.standard.get? "" .rn = none := rfl
  have hf : generatePage Registry.standard ⟨"home", none, some swiperRoot⟩ .rn "home" =
      .error (.on .rn (.unsupported "Swiper" .rn)) :=
    generatePage_eq_error_iff.2 ⟨_, rfl, rfl⟩
  have hroot : (⟨"home", none, some swiperRoot⟩ : Page).components = some swiperRoot := rfl
  obtain ⟨-, hfirst, -⟩ := generatePage_foretold hr hroot "home"
  obtain ⟨d, location, c, hd, hlocate, hc⟩ := hfirst _ hf
  have htype : c.type = "Swiper" := by
    injection hc with _ hcause
    injection hcause with htype
    exact htype.symm
  exact ⟨hr, d, location, c, hd, hlocate, htype, hf.trans (congrArg _ hc)⟩

end Generation
end Pagewright
