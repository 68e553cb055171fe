/-
# What a generated module binds

The top level of a generated module binds the names that its import statements import
and the name of its function. The statements cannot clash within a module, but names
are collected module by module and the function is named for the page, so two clashes
remain, and each can be read off the tree (`generatePage_bindings`):

| clash | when |
| --- | --- |
| two statements import a name | two nodes need it of two modules |
| the function has an imported name | a node needs the name of the page's component |
-/

import Pagewright.Proofs.Generation.Outcome
import Pagewright.Proofs.Lowering.Needs
import Pagewright.Proofs.Manifest.Accepted

namespace Pagewright
namespace Generation

open Lowering (Needs hasName_tree)
open Source (Import)

/-- **A page imports** what the nodes of its tree need; its style sheet is imported
without a name. -/
theorem hasName_pageOf {r : Registry} {p : Platform} {name : String} {root : Component}
    {module tag : String} :
    (pageOf r p name root).context.imports.hasName module tag ↔
      ∃ c ∈ root.descendants, Needs r p c module tag := by
  rw [← hasName_tree]
  unfold pageOf
  dsimp only
  split
  · rfl
  · rw [Imports.hasName_addModule]

/-- The names that the module of a page binds at its top level. -/
def bindings (name : String) (output : PageOutput) : List String :=
  output.context.imports.symbols ++ [Naming.componentName name]

/-- Two nodes of a tree need a name of two modules. -/
def ImportClash (r : Registry) (p : Platform) (root : Component) (tag : String) : Prop :=
  ∃ c ∈ root.descendants, ∃ c' ∈ root.descendants, ∃ module module',
    Needs r p c module tag ∧ Needs r p c' module' tag ∧ module ≠ module'

/-- A node of a tree needs the name of the function that is made for the tree. -/
def FunctionClash (r : Registry) (p : Platform) (name : String) (root : Component) : Prop :=
  ∃ c ∈ root.descendants, ∃ module, Needs r p c module (Naming.componentName name)

section Clash

variable {r : Registry} {p : Platform} {name : String} {root : Component}

/-- **A name is used of two modules** exactly if two nodes need it of them. -/
theorem exists_hasName_pageOf_iff {tag : String} :
    (∃ module module', (pageOf r p name root).context.imports.hasName module tag ∧
      (pageOf r p name root).context.imports.hasName module' tag ∧ module ≠ module') ↔
      ImportClash r p root tag := by
  simp only [hasName_pageOf]
  constructor
  · rintro ⟨module, module', ⟨c, hc, hn⟩, ⟨c', hc', hn'⟩, hne⟩
    exact ⟨c, hc, c', hc', module, module', hn, hn', hne⟩
  · rintro ⟨c, hc, c', hc', module, module', hn, hn', hne⟩
    exact ⟨module, module', ⟨c, hc, hn⟩, ⟨c', hc', hn'⟩, hne⟩

/-- **Two statements bind a name** exactly if two nodes need it of two modules. -/
theorem exists_both_bind_pageOf_iff {tag : String} :
    (∃ s ∈ Import.ofImports (pageOf r p name root).context.imports,
      ∃ s' ∈ Import.ofImports (pageOf r p name root).context.imports,
        s ≠ s' ∧ tag ∈ s.bound ∧ tag ∈ s'.bound) ↔ ImportClash r p root tag := by
  have hmodules := (pageOf r p name root).context.imports.nodup_modules_ofImports
  rw [← exists_hasName_pageOf_iff]
  simp only [← Imports.exists_mem_bound_iff]
  constructor
  · rintro ⟨s, hs, s', hs', hne, htag, htag'⟩
    exact ⟨s.module, s'.module, ⟨s, hs, rfl, htag⟩, ⟨s', hs', rfl, htag'⟩,
      fun h => hne (List.inj_on_of_nodup_map hmodules hs hs' h)⟩
  · rintro ⟨_, _, ⟨s, hs, rfl, htag⟩, ⟨s', hs', rfl, htag'⟩, hne⟩
    exact ⟨s, hs, s', hs', fun h => hne (congrArg Import.module h), htag, htag'⟩

/-- **No name is imported twice** exactly if no two nodes need one of two modules. -/
theorem nodup_symbols_pageOf_iff :
    (pageOf r p name root).context.imports.symbols.Nodup ↔ ∀ tag, ¬ ImportClash r p root tag := by
  rw [Imports.nodup_symbols_iff]
  simp only [← @exists_hasName_pageOf_iff r p name root]
  constructor
  · rintro h tag ⟨module, module', hn, hn', hne⟩
    exact hne (h module module' tag hn hn')
  · intro h module module' tag hn hn'
    by_contra hne
    exact h tag ⟨module, module', hn, hn', hne⟩

/-- **The function has an imported name** exactly if a node needs that name. -/
theorem componentName_mem_symbols_pageOf_iff :
    Naming.componentName name ∈ (pageOf r p name root).context.imports.symbols ↔
      FunctionClash r p name root := by
  rw [Imports.mem_symbols_iff]
  simp only [hasName_pageOf]
  constructor
  · rintro ⟨module, c, hc, hn⟩
    exact ⟨c, hc, module, hn⟩
  · rintro ⟨c, hc, module, hn⟩
    exact ⟨module, c, hc, hn⟩

end Clash

/-- The names bound at the top level are those of the statements and the function's. -/
theorem nodup_bindings_iff {name : String} {output : PageOutput} :
    (bindings name output).Nodup ↔
      output.context.imports.symbols.Nodup ∧
        Naming.componentName name ∉ output.context.imports.symbols := by
  rw [bindings, List.nodup_append_comm, List.singleton_append, List.nodup_cons, and_comm]

/-- **When the bindings of a module are distinct.** No two statements in its code are for
one module, and none binds a name twice. For every name, two of them bind it exactly if two
nodes need it of two modules, and the function has an imported name exactly if a node
needs that name; without these clashes, and only then, all bindings are distinct. -/
theorem generatePage_bindings {r : Registry} {page : Page} {p : Platform} {name : String}
    {output : PageOutput} (h : generatePage r page p name = .ok output) :
    let statements := Import.ofImports output.context.imports
    ∃ root, page.components = some root ∧
      output.code = Source.File.render
        ⟨statements, [Source.functionComponent (Naming.componentName name) output.markup]⟩ ∧
      (statements.map (·.module)).Nodup ∧ (∀ s ∈ statements, s.bound.Nodup) ∧
      (∀ tag, (∃ s ∈ statements, ∃ s' ∈ statements, s ≠ s' ∧ tag ∈ s.bound ∧ tag ∈ s'.bound) ↔
        ImportClash r p root tag) ∧
      ((statements.flatMap (·.bound)).Nodup ↔ ∀ tag, ¬ ImportClash r p root tag) ∧
      (Naming.componentName name ∈ statements.flatMap (·.bound) ↔
        FunctionClash r p name root) ∧
      ((bindings name output).Nodup ↔
        (∀ tag, ¬ ImportClash r p root tag) ∧ ¬ FunctionClash r p name root) := by
  intro statements
  obtain ⟨root, hc, -, rfl⟩ := generatePage_eq_ok_iff.1 h
  refine ⟨root, hc, rfl, Imports.nodup_modules_ofImports _,
    fun s hs => Imports.nodup_bound_of_mem hs, fun _ => exists_both_bind_pageOf_iff,
    nodup_symbols_pageOf_iff, componentName_mem_symbols_pageOf_iff, ?_⟩
  rw [nodup_bindings_iff, nodup_symbols_pageOf_iff, componentName_mem_symbols_pageOf_iff]

/-- A tree with a built-in component and, below it, one that `Manifest.sample` declares:
both have the tag `View`, of two modules. -/
def cardRoot : Component := (Component.leaf "root" "Container").withChild (.leaf "card" "Card")

/-- The tree `cardRoot` is generated under any name. -/
theorem generatePage_cardRoot (name : String) :
    generatePage (Registry.standard.registerManifest .sample) ⟨name, none, some cardRoot⟩ .h5
        name =
      .ok (pageOf (Registry.standard.registerManifest .sample) .h5 name cardRoot) :=
  generatePage_eq_ok_iff.2 ⟨cardRoot, rfl, by decide, rfl⟩

/-- The two nodes of `cardRoot` need `View` of two modules. -/
theorem importClash_cardRoot :
    ImportClash (Registry.standard.registerManifest .sample) .h5 cardRoot "View" :=
  ⟨_, .head _, _, .tail _ (.head _), _, "cards", ⟨_, rfl, rfl, rfl, rfl⟩,
    ⟨_, rfl, rfl, rfl, rfl⟩, by decide⟩

/-- The hypothesis of `generatePage_bindings` is satisfiable, with one of the two clashes: on
a page called `home` two statements bind `View`, and the function is called `Home`. -/
theorem cardRoot_bindings_home :
    ∃ output,
      generatePage (Registry.standard.registerManifest .sample) ⟨"home", none, some cardRoot⟩ .h5
        "home" = .ok output ∧
      (∃ s ∈ Import.ofImports output.context.imports,
        ∃ s' ∈ Import.ofImports output.context.imports,
          s ≠ s' ∧ "View" ∈ s.bound ∧ "View" ∈ s'.bound) ∧
      ¬ output.context.imports.symbols.Nodup ∧
      Naming.componentName "home" ∉ output.context.imports.symbols := by
  obtain ⟨root, hroot, -, -, -, hboth, himports, hfunction, -⟩ :=
    generatePage_bindings (generatePage_cardRoot "home")
  obtain rfl := Option.some.inj hroot
  refine ⟨_, generatePage_cardRoot "home", (hboth "View").2 importClash_cardRoot,
    fun hn => himports.1 hn "View" importClash_cardRoot, fun hm => ?_⟩
  obtain ⟨c, hc, module, rule, hr, -, -, ht⟩ := hfunction.1 hm
  have htags : ∀ c ∈ cardRoot.descendants,
      ∀ rule ∈ (Registry.standard.registerManifest .sample).get? c.type .h5, rule.tag = "View" := by
    decide
  have hname : Naming.componentName "home" = "Home" := by cbv
  rw [htags c hc rule hr, hname] at ht
  exact absurd ht (by decide)

/-- **Both clashes happen:** with an accepted manifest, a page called `view` imports `View`
twice and names its function so too. -/
theorem cardRoot_clashes :
    Manifest.parse Manifest.sampleText = .ok Manifest.sample ∧
      Naming.directoryName "view" = "view" ∧
      ∃ output,
        generatePage (Registry.standard.registerManifest .sample) ⟨"view", none, some cardRoot⟩ .h5
          "view" = .ok output ∧
        ¬ output.context.imports.symbols.Nodup ∧
        Naming.componentName "view" ∈ output.context.imports.symbols ∧
        ¬ (bindings "view" output).Nodup := by
  have hname : Naming.componentName "view" = "View" := by cbv
  have hfunction : FunctionClash (Registry.standard.registerManifest .sample) .h5 "view"
      cardRoot := ⟨_, .tail _ (.head _), "cards", _, rfl, rfl, rfl, hname.symm⟩
  have hn : ¬ (pageOf (Registry.standard.registerManifest .sample) .h5 "view"
      cardRoot).context.imports.symbols.Nodup :=
    fun hn => nodup_symbols_pageOf_iff.1 hn "View" importClash_cardRoot
  refine ⟨Manifest.parse_sampleText, by cbv, _, generatePage_cardRoot "view", hn, ?_, ?_⟩
  · exact componentName_mem_symbols_pageOf_iff.2 hfunction
  · exact fun hb => hn (nodup_bindings_iff.1 hb).1

end Generation
end Pagewright
