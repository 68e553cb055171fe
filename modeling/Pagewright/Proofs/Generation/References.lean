/-
# Which references of a generated page are bound

A tag that begins with a capital is read as a reference to a binding, any other tag as
an element. Lowering decides by the rule of a node whether its tag is imported, and by
nothing else, so the two agree as far as the rules do:

| rule of a node | its tag begins with a capital |
| --- | --- |
| built-in, with an import | yes |
| built-in, without one | no |
| of an accepted manifest, with an import | yes |
| of an accepted manifest, without one | perhaps |

Hence every name that a page imports is a reference in it, while a reference may be
left unbound. It is left so exactly if a node is lowered to it by a declared rule
without import and no node needs it of a module (`generatePage_references`). No page
has an unbound reference exactly if the manifest declares no such rule
(`bound_of_all_pages_iff`).
-/

import Pagewright.Proofs.Generation.Bindings
import Pagewright.Proofs.Manifest.Accepted
import Pagewright.Proofs.Registry.Declared

namespace Pagewright
namespace Generation

open Lowering (Needs isSome_of_single tag? tagNames_markup)
open Manifest (Valid isCapitalized)
open Registry (standard declared_or_standard get?_registerManifest isCapitalized_of_standard)

/-- A node is lowered to a tag by a declared rule without import. -/
def DeclaredBare (m : Manifest) (p : Platform) (c : Component) (tag : String) : Prop :=
  ∃ d rule, m.components.get? c.type = some d ∧ d.rules.get? p = some rule ∧
    rule.isIntrinsic ∧ rule.tag = tag

section Rules

variable {m : Manifest} {p : Platform} {c : Component} {tag : String}

/-- **A tag of a module is a reference**, if the manifest is valid. -/
theorem isCapitalized_of_needs (hv : Valid m) {module : String}
    (h : Needs (standard.registerManifest m) p c module tag) : isCapitalized tag := by
  obtain ⟨rule, hr, hi, -, rfl⟩ := h
  rcases declared_or_standard hr with ⟨d, hd, hrule⟩ | hs
  · have hvalid := (hv.components _ (Dict.get?_eq_some_iff.1 hd)).rules _
      (Dict.get?_eq_some_iff.1 hrule)
    have hpath : rule.importPath ≠ "" := by simpa [Mapping.Rule.isIntrinsic] using hi
    exact (hvalid.imported hpath).2
  · exact (isCapitalized_of_standard hs).2 hi

/-- **A reference** is needed of a module, or the rule for it is a declared one
without import. -/
theorem needs_or_declaredBare (ht : tag? (standard.registerManifest m) p c = some tag)
    (hc : isCapitalized tag) :
    (∃ module, Needs (standard.registerManifest m) p c module tag) ∨ DeclaredBare m p c tag := by
  obtain ⟨rule, hr, rfl⟩ := Option.map_eq_some_iff.1 ht
  cases hi : rule.isIntrinsic with
  | false => exact .inl ⟨rule.importPath, rule, hr, hi, rfl, rfl⟩
  | true =>
    rcases declared_or_standard hr with ⟨d, hd, hrule⟩ | hs
    · exact .inr ⟨d, rule, hd, hrule, hi, rfl⟩
    · exact absurd ((isCapitalized_of_standard hs).1 hc) (by rw [hi]; exact Bool.noConfusion)

/-- The name that a node needs is its tag. -/
theorem tag?_of_needs {r : Registry} {module : String} (h : Needs r p c module tag) :
    tag? r p c = some tag := by
  obtain ⟨rule, hr, -, -, rfl⟩ := h
  rw [tag?, hr, Option.map_some]

/-- A rule that is declared for the platform is the one that the registry gives. -/
theorem get?_of_declared {type : String} {d : Mapping.Declaration} {rule : Mapping.Rule}
    (hd : m.components.get? type = some d) (hrule : d.rules.get? p = some rule) :
    (standard.registerManifest m).get? type p = some rule := by
  rw [get?_registerManifest rfl, hd, Option.bind_some, hrule, Option.some_or]

/-- A type that is declared without an import has its name as a tag. -/
theorem tag?_of_declaredBare (h : DeclaredBare m p c tag) :
    tag? (standard.registerManifest m) p c = some tag := by
  obtain ⟨d, rule, hd, hrule, -, rfl⟩ := h
  rw [tag?, get?_of_declared hd hrule, Option.map_some]

end Rules

/-- The references of a page are bound: its tags that begin with a capital are imported. -/
def Bound (output : PageOutput) : Prop :=
  ∀ tag ∈ output.markup.tagNames, isCapitalized tag →
    ∃ module, output.context.imports.hasName module tag

/-- The tags of a page are those of the nodes of its tree. -/
theorem mem_tagNames_pageOf {r : Registry} {p : Platform} {name : String} {root : Component}
    {tag : String} (h : ∀ c ∈ root.descendants, (r.get? c.type p).isSome) :
    tag ∈ (pageOf r p name root).markup.tagNames ↔
      ∃ c ∈ root.descendants, tag? r p c = some tag := by
  change tag ∈ (Lowering.markup r p root).tagNames ↔ _
  rw [tagNames_markup root h, List.mem_filterMap]

/-- **The references of a tree are bound** exactly if, of those to which a declared rule
without import lowers a node, each is needed of a module by some node. -/
theorem bound_pageOf_iff {m : Manifest} {p : Platform} {name : String} {root : Component}
    (h : ∀ c ∈ root.descendants, ((standard.registerManifest m).get? c.type p).isSome) :
    Bound (pageOf (standard.registerManifest m) p name root) ↔
      ∀ tag, isCapitalized tag → (∃ c ∈ root.descendants, DeclaredBare m p c tag) →
        ∃ c ∈ root.descendants, ∃ module, Needs (standard.registerManifest m) p c module tag := by
  constructor
  · rintro hb tag hcap ⟨c, hc, hbare⟩
    obtain ⟨module, hn⟩ := hb tag
      ((mem_tagNames_pageOf h).2 ⟨c, hc, tag?_of_declaredBare hbare⟩) hcap
    obtain ⟨c', hc', hneeds⟩ := hasName_pageOf.1 hn
    exact ⟨c', hc', module, hneeds⟩
  · intro hb tag ht hcap
    obtain ⟨c, hc, htag⟩ := (mem_tagNames_pageOf h).1 ht
    rcases needs_or_declaredBare htag hcap with ⟨module, hneeds⟩ | hbare
    · exact ⟨module, hasName_pageOf.2 ⟨c, hc, hneeds⟩⟩
    · obtain ⟨c', hc', module, hneeds⟩ := hb tag hcap ⟨c, hc, hbare⟩
      exact ⟨module, hasName_pageOf.2 ⟨c', hc', hneeds⟩⟩

/-- **When the references of all pages are bound:** exactly if no declared rule that has
no import has a tag that begins with a capital. If one has, a page of one component has
an unbound reference. -/
theorem bound_of_all_pages_iff {m : Manifest} {p : Platform} :
    (∀ page name output, generatePage (standard.registerManifest m) page p name = .ok output →
        Bound output) ↔
      ∀ type d rule, m.components.get? type = some d → d.rules.get? p = some rule →
        rule.isIntrinsic → ¬ isCapitalized rule.tag := by
  constructor
  · intro hall type d rule hd hrule hi hcap
    have hr := get?_of_declared hd hrule
    have hsome : ∀ c ∈ (Component.leaf "" type).descendants,
        ((standard.registerManifest m).get? c.type p).isSome :=
      isSome_of_single rfl hr
    have hb := hall ⟨"", none, some (.leaf "" type)⟩ "" _
      (generatePage_eq_ok_iff.2 ⟨_, rfl, hsome, rfl⟩)
    obtain ⟨c, hc, module, rule', hr', hi', -⟩ := (bound_pageOf_iff hsome).1 hb rule.tag hcap
      ⟨_, .head _, d, rule, hd, hrule, hi, rfl⟩
    obtain rfl := List.mem_singleton.1 hc
    obtain rfl := Option.some.inj (hr.symm.trans hr')
    rw [hi] at hi'
    cases hi'
  · intro hnone page name output hg
    obtain ⟨root, -, hsome, rfl⟩ := generatePage_eq_ok_iff.1 hg
    refine (bound_pageOf_iff hsome).2 ?_
    rintro tag hcap ⟨c, -, d, rule, hd, hrule, hi, rfl⟩
    exact absurd hcap (hnone c.type d rule hd hrule hi)

/-- **When the references of a page are bound.** On a page made with an accepted manifest
every imported name is a tag and begins with a capital. Every tag that begins with
a capital is imported exactly if, of the tags to which a declared rule without import
lowers a node, each is needed of a module by some node. -/
theorem generatePage_references {text : String} {m : Manifest} {page : Page} {p : Platform}
    {name : String} {output : PageOutput} (hm : Manifest.parse text = .ok m)
    (h : generatePage (standard.registerManifest m) page p name = .ok output) :
    ∃ root, page.components = some root ∧
      (∀ module tag, output.context.imports.hasName module tag →
        tag ∈ output.markup.tagNames ∧ isCapitalized tag) ∧
      (Bound output ↔
        ∀ tag, isCapitalized tag → (∃ c ∈ root.descendants, DeclaredBare m p c tag) →
          ∃ c ∈ root.descendants, ∃ module,
            Needs (standard.registerManifest m) p c module tag) := by
  obtain ⟨-, -, -, hv⟩ := Manifest.parse_eq_ok_iff.1 hm
  obtain ⟨root, hroot, hsome, rfl⟩ := generatePage_eq_ok_iff.1 h
  refine ⟨root, hroot, ?_, bound_pageOf_iff hsome⟩
  intro module tag hn
  obtain ⟨c, hc, hneeds⟩ := hasName_pageOf.1 hn
  exact ⟨(mem_tagNames_pageOf hsome).2 ⟨c, hc, tag?_of_needs hneeds⟩,
    isCapitalized_of_needs hv hneeds⟩

/-- The hypotheses of `generatePage_references` are satisfiable, with every reference bound:
no node of `cardRoot` is lowered by a declared rule without import. -/
theorem cardRoot_references :
    ∃ output,
      generatePage (standard.registerManifest .sample) ⟨"home", none, some cardRoot⟩ .h5 "home" =
        .ok output ∧ Bound output := by
  obtain ⟨root, hroot, -, hb⟩ :=
    generatePage_references Manifest.parse_sampleText (generatePage_cardRoot "home")
  obtain rfl := Option.some.inj hroot
  refine ⟨_, generatePage_cardRoot "home", hb.2 ?_⟩
  rintro tag - ⟨c, hc, d, rule, hd, hrule, hi, -⟩
  exfalso
  have hdeclared : ∀ c ∈ cardRoot.descendants, ∀ d ∈ Manifest.sample.components.get? c.type,
      ∀ rule ∈ d.rules.get? .h5, rule.isIntrinsic = false := by
    decide
  rw [hdeclared c hc d hd rule hrule] at hi
  cases hi

/-- A tree of one component that `Manifest.sample` declares with the tag `Section` of no
module. -/
def panelRoot : Component := .leaf "panel" "Panel"

/-- **A reference may be left unbound:** the sample manifest is accepted, and a page with
a panel has the tag `Section`, which begins with a capital and is imported of no module. -/
theorem panelRoot_unbound :
    Manifest.parse Manifest.sampleText = .ok Manifest.sample ∧
      ∃ output,
        generatePage (standard.registerManifest .sample) ⟨"home", none, some panelRoot⟩ .h5
          "home" = .ok output ∧
        ¬ Bound output := by
  have hsome : ∀ c ∈ panelRoot.descendants,
      ((standard.registerManifest .sample).get? c.type .h5).isSome := by
    decide
  have hbare : DeclaredBare .sample .h5 panelRoot "Section" := ⟨_, _, rfl, rfl, rfl, rfl⟩
  refine ⟨Manifest.parse_sampleText, pageOf _ .h5 "home" panelRoot,
    generatePage_eq_ok_iff.2 ⟨panelRoot, rfl, hsome, rfl⟩, fun hb => ?_⟩
  obtain ⟨c, hc, module, rule, hr, hi, -⟩ := (bound_pageOf_iff hsome).1 hb "Section" (by decide)
    ⟨panelRoot, .head _, hbare⟩
  have hrules : ∀ c ∈ panelRoot.descendants,
      ∀ rule ∈ (standard.registerManifest .sample).get? c.type .h5, rule.isIntrinsic := by
    decide
  rw [hrules c hc rule hr] at hi
  cases hi

end Generation
end Pagewright
