/-
# When generation succeeds

Whether a page can be generated depends on its tree and on the rules for the
platform, not on the name it is generated under:

| page | outcome |
| --- | --- |
| without a component tree | fails, with the page's name |
| with a node whose type has no rule | fails, with the type of the first in pre-order |
| any other | `pageOf` |

Every failure of a page is marked with the platform (`generatePage_eq`). A project
generates its pages in list order, so it fails as its first page that cannot be
generated does, and succeeds when there is none (`generateProject_outcome`).
-/

import Pagewright.Generation.Project
import Pagewright.Proofs.Failing
import Pagewright.Proofs.Lowering.Parts

namespace Pagewright
namespace Generation

open Component (preorder_eq_descendants)
open Lowering (firstUnsupported? firstUnsupported?_eq_none_iff)

/-- What stands in the way of generating a page. -/
def fault? (r : Registry) (p : Platform) (page : Page) : Option Failure :=
  match page.components with
  | none => some (.treeless page.name)
  | some root =>
    (firstUnsupported? r p root.descendants).map fun c => .unsupported c.type p

/-- The page that a tree makes in which every type has a rule. -/
def pageOf (r : Registry) (p : Platform) (name : String) (root : Component) : PageOutput :=
  let context := root.descendants.foldl (Lowering.visit r p) .empty
  let sheet := Style.Sheet.ofTree p root
  let imports :=
    if sheet.isEmpty then context.imports else context.imports.addModule pageStylesPath
  let markup := Lowering.markup r p root
  ⟨(Source.pageFile name imports markup).render, sheet.render, markup,
    { context with imports := imports }⟩

section Page

variable {r : Registry} {p : Platform} {page : Page} {name : String}

/-- **Generating a page:** it fails for a fault, marked with the platform, and makes the
page of its tree where there is no fault. -/
theorem generatePage_eq :
    generatePage r page p name =
      match page.components with
      | none => .error (.on p (.treeless page.name))
      | some root =>
        match firstUnsupported? r p root.descendants with
        | some bad => .error (.on p (.unsupported bad.type p))
        | none => .ok (pageOf r p name root) := by
  unfold generatePage pageOutput
  cases page.components with
  | none => rfl
  | some root =>
    simp only [Lowering.lower, Lowering.lowerNode_eq]
    cases firstUnsupported? r p root.descendants <;> rfl

/-- **A page is generated** exactly if it has a tree and each node of it has a rule. -/
theorem generatePage_eq_ok_iff {output : PageOutput} :
    generatePage r page p name = .ok output ↔
      ∃ root, page.components = some root ∧ (∀ c ∈ root.descendants, (r.get? c.type p).isSome) ∧
        output = pageOf r p name root := by
  rw [generatePage_eq]
  cases page.components with
  | none => simp
  | some root =>
    simp only [← firstUnsupported?_eq_none_iff, Option.some.injEq, exists_eq_left']
    cases firstUnsupported? r p root.descendants <;> simp [eq_comm]

/-- **A page fails** exactly with its fault. -/
theorem generatePage_eq_error_iff {f : Failure} :
    generatePage r page p name = .error f ↔
      ∃ cause, fault? r p page = some cause ∧ f = .on p cause := by
  rw [generatePage_eq, fault?]
  cases page.components with
  | none => simp [eq_comm]
  | some root => cases h : firstUnsupported? r p root.descendants <;> simp [h, eq_comm]

/-- A page has no fault exactly if it has a tree and each node of it has a rule. -/
theorem fault?_eq_none_iff :
    fault? r p page = none ↔
      ∃ root, page.components = some root ∧ ∀ c ∈ root.descendants, (r.get? c.type p).isSome := by
  rw [fault?]
  cases page.components with
  | none => simp
  | some root => simp [← firstUnsupported?_eq_none_iff]

/-- A page without a fault is generated under any name. -/
theorem exists_generatePage_iff (name : String) :
    (∃ output, generatePage r page p name = .ok output) ↔ fault? r p page = none := by
  rw [fault?_eq_none_iff]
  constructor
  · rintro ⟨output, h⟩
    obtain ⟨root, hc, hs, -⟩ := generatePage_eq_ok_iff.1 h
    exact ⟨root, hc, hs⟩
  · rintro ⟨root, hc, hs⟩
    exact ⟨_, generatePage_eq_ok_iff.2 ⟨root, hc, hs, rfl⟩⟩

/-- A fault has no cause behind it. -/
theorem root_of_fault? {cause : Failure} (h : fault? r p page = some cause) :
    cause.root = cause := by
  rw [fault?] at h
  cases hc : page.components with
  | none =>
    rw [hc] at h
    obtain rfl := Option.some.inj h
    rfl
  | some root =>
    rw [hc] at h
    obtain ⟨bad, -, rfl⟩ := Option.map_eq_some_iff.1 h
    rfl

end Page

/-- Giving the pages their directories keeps the pages and their order. -/
theorem map_snd_placePages (taken : List String) (pages : List Page) :
    (placePages taken pages).map Prod.snd = pages := by
  induction pages generalizing taken with
  | nil => rfl
  | cons page pages ih => rw [placePages, List.map_cons, ih]

/-- A page fails in its directory as it fails by itself. -/
theorem generatePlaced_eq_error_iff {r : Registry} {p : Platform} {e : String × Page}
    {f : Failure} : generatePlaced r p e = .error f ↔ generatePage r e.2 p e.1 = .error f := by
  rw [generatePlaced]
  cases generatePage r e.2 p e.1 <;> simp [Except.map]

/-- A page without a fault is generated in any directory. -/
theorem exists_generatePlaced_iff {r : Registry} {p : Platform} {e : String × Page} :
    (∃ placed, generatePlaced r p e = .ok placed) ↔ fault? r p e.2 = none := by
  rw [← exists_generatePage_iff e.1, generatePlaced]
  cases generatePage r e.2 p e.1 <;> simp [Except.map]

/-- A project is generated when each of its pages is. -/
theorem exists_generateProject_iff (r : Registry) (pages : List Page) (p : Platform)
    (config : Project.Config) :
    (∃ code, generateProject r pages p config = .ok code) ↔
      ∀ page ∈ pages, fault? r p page = none := by
  have h : (∃ code, generateProject r pages p config = .ok code) ↔
      ∃ placed, (placePages [] pages).mapM (generatePlaced r p) = .ok placed := by
    rw [generateProject]
    cases (placePages [] pages).mapM (generatePlaced r p) <;> simp [Except.map]
  rw [h, exists_mapM_iff]
  simp only [exists_generatePlaced_iff]
  conv => rhs; rw [← map_snd_placePages [] pages]
  rw [List.forall_mem_map]

/-- A project fails as the first of its pages that has a fault. -/
theorem generateProject_eq_error {r : Registry} {pages : List Page} {p : Platform}
    {config : Project.Config} {f : Failure} (h : generateProject r pages p config = .error f) :
    ∃ before page after cause, pages = before ++ page :: after ∧
      (∀ q ∈ before, fault? r p q = none) ∧ fault? r p page = some cause ∧ f = .on p cause := by
  have hm : (placePages [] pages).mapM (generatePlaced r p) = .error f := by
    rw [generateProject] at h
    cases hm : (placePages [] pages).mapM (generatePlaced r p) with
    | error g =>
      rw [hm] at h
      exact congrArg Except.error (Except.error.inj h)
    | ok placed => rw [hm] at h; cases h
  obtain ⟨before, e, after, hl, hb, he⟩ := mapM_eq_error_iff.1 hm
  obtain ⟨cause, hc, rfl⟩ := generatePage_eq_error_iff.1 (generatePlaced_eq_error_iff.1 he)
  refine ⟨before.map Prod.snd, e.2, after.map Prod.snd, cause, ?_, ?_, hc, rfl⟩
  · rw [← map_snd_placePages [] pages, hl, List.map_append, List.map_cons]
  · rw [List.forall_mem_map]
    exact fun q hq => exists_generatePlaced_iff.1 (hb q hq)

/-- **When a project is generated.** It is exactly if every page has a component tree
and every node of every tree a type with a rule for the platform. If it is
not, the failure names the platform and is that of the first page that
cannot be generated; its innermost cause names the page if it has no tree,
and else the type of the first node in pre-order without a rule. -/
theorem generateProject_outcome (r : Registry) (pages : List Page) (p : Platform)
    (config : Project.Config) :
    ((∃ code, generateProject r pages p config = .ok code) ↔
      ∀ page ∈ pages, ∃ root, page.components = some root ∧
        ∀ c ∈ root.preorder, (r.get? c.type p).isSome) ∧
    ∀ f, generateProject r pages p config = .error f →
      ∃ before page after cause, pages = before ++ page :: after ∧
        (∀ q ∈ before, ∀ name, ∃ output, generatePage r q p name = .ok output) ∧
        (∀ name, generatePage r page p name = .error f) ∧ f = .on p cause ∧
        (page.components = none → f.root = .treeless page.name) ∧
        ∀ root, page.components = some root →
          ∃ c, root.preorder.find? (fun c => (r.get? c.type p).isNone) = some c ∧
            f.root = .unsupported c.type p := by
  simp only [preorder_eq_descendants]
  constructor
  · rw [exists_generateProject_iff]
    simp only [fault?_eq_none_iff]
  · intro f h
    obtain ⟨before, page, after, cause, hl, hb, hc, rfl⟩ := generateProject_eq_error h
    have hroot : (Failure.on p cause).root = cause := by
      rw [Failure.root, root_of_fault? hc]
    refine ⟨before, page, after, cause, hl, ?_, ?_, rfl, fun hn => ?_, fun root hs => ?_⟩
    · exact fun q hq name => (exists_generatePage_iff name).2 (hb q hq)
    · exact fun name => generatePage_eq_error_iff.2 ⟨cause, hc, rfl⟩
    · rw [fault?, hn] at hc
      rw [hroot, ← Option.some.inj hc]
    · rw [fault?, hs] at hc
      obtain ⟨c, hf, rfl⟩ := Option.map_eq_some_iff.1 hc
      exact ⟨c, hf, hroot⟩

end Generation
end Pagewright
