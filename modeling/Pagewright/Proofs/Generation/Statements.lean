/-
# What the import statements of a page say

A page has one statement for each module that it imports, made from the names collected of
the module. The names may be imported under, as the rules in force are valid, so each
statement is a declaration up to its module. The path of the module is written between quotes
as it is, and nothing is asked of the path that a manifest declares:

| path | read as itself |
| --- | --- |
| of a standard rule | yes |
| of the style sheet | yes |
| of a declared rule | exactly if it is plain |

So the statements of a page say what was collected exactly if the declared rules of its nodes
have plain paths (`generatePage_declares`), and those of all pages exactly if all declared
rules have (`readBack_of_all_pages_iff`).
-/

import Pagewright.Proofs.Generation.Tags
import Pagewright.Proofs.Script.ImportDeclarations

namespace Pagewright

open Script (IsPlain isBindingName readImport readImport_statement_eq_some_iff)
open Source (Import)

/-- **A reference** may be imported under. -/
theorem Manifest.IsReference.isBindingName {tag : String} (h : IsReference tag) :
    Script.isBindingName tag := by
  obtain ⟨⟨hreserved, hidentifier⟩, -⟩ := isReference_iff.1 h
  rw [Script.isBindingName, identifierFault?_eq_none_iff.1 hidentifier, hreserved]
  rfl

namespace Imports

/-- The statements for collected imports say what was collected: each is read as the
declaration of the names collected of its module. -/
def ReadBack (i : Imports) : Prop :=
  ∀ s ∈ Import.ofImports i, ∃ names, i.names? s.module = some names ∧
    readImport s.statement.toList = some (.names s.module names.items)

/-- The names that are imported may be imported under. -/
def Bindable (i : Imports) : Prop := ∀ module name, i.hasName module name → isBindingName name

variable {i : Imports} {s : Import}

/-- **One statement** is read as what it was made from exactly if its module is plain. -/
theorem readImport_eq_some_iff (hnames : i.Bindable) (hs : s ∈ Import.ofImports i) :
    readImport s.statement.toList = some s ↔ IsPlain s.module := by
  refine readImport_statement_eq_some_iff fun name hname => ?_
  obtain ⟨module, hmodule⟩ := mem_symbols_iff.1 (List.mem_flatMap.2 ⟨s, hs, hname⟩)
  exact hnames module name hmodule

/-- **All statements** are, exactly if all modules are plain. -/
theorem readBack_iff (hnames : i.Bindable) :
    i.ReadBack ↔ ∀ module ∈ i.modules.keys, IsPlain module := by
  have hread : i.ReadBack ↔ ∀ s ∈ Import.ofImports i, IsPlain s.module := by
    refine forall₂_congr fun s hs => ?_
    obtain ⟨names, hget, heq⟩ := exists_names_of_mem hs
    rw [← readImport_eq_some_iff hnames hs]
    constructor
    · rintro ⟨names', hget', hread⟩
      obtain rfl := Option.some.inj (hget.symm.trans hget')
      rwa [← heq] at hread
    · intro hread
      exact ⟨names, hget, heq ▸ hread⟩
  rw [hread]
  simp only [← i.modules_ofImports_perm.mem_iff, List.forall_mem_map]

end Imports

namespace Generation

open Lowering (module? isSome_of_single keys_tree)
open Manifest (Valid validRule_of_get?)
open Registry (standard get?_registerManifest of_standard)

/-- The rule that a manifest declares for a type on a platform. -/
def declaredRule? (m : Manifest) (type : String) (p : Platform) : Option Mapping.Rule :=
  (m.components.get? type).bind (·.rules.get? p)

section Modules

variable {r : Registry} {m : Manifest} {p : Platform} {name : String} {root : Component}

/-- **What a page imports:** the modules of its nodes, and its style sheet if that has a rule. -/
theorem mem_keys_pageOf {module : String} :
    module ∈ (pageOf r p name root).context.imports.modules.keys ↔
      (∃ c ∈ root.descendants, module? r p c = some module) ∨
        (Style.Sheet.ofTree p root).isEmpty = false ∧ module = pageStylesPath := by
  have hnodes : module ∈ (root.descendants.foldl (Lowering.visit r p) .empty).imports.modules.keys ↔
      ∃ c ∈ root.descendants, module? r p c = some module := by
    rw [keys_tree, Lowering.modules, List.mem_eraseDups, List.mem_filterMap]
  unfold pageOf
  dsimp only
  cases (Style.Sheet.ofTree p root).isEmpty with
  | true => simp [hnodes]
  | false =>
    rw [if_neg Bool.false_ne_true, Imports.addModule, Dict.alter, Dict.mem_keys_insert, hnodes]
    simp [or_comm]

/-- **The standard paths are plain:** there is one module, and rules without import. -/
theorem isPlain_of_standard {type : String} {rule : Mapping.Rule}
    (h : standard.get? type p = some rule) : IsPlain rule.importPath := by
  have hall : ∀ e ∈ standard.builtins.entries, ∀ f ∈ e.2.rules.entries,
      f.2.importPath = Mapping.Builtin.componentModule ∨ f.2.importPath = "" := by
    decide
  rcases of_standard hall h with hpath | hpath
  · rw [hpath]
    decide
  · rw [hpath]
    decide

/-- **The module of a node** is plain exactly if the path is that is declared for it. -/
theorem forall_module?_iff {c : Component} :
    (∀ module, module? (standard.registerManifest m) p c = some module → IsPlain module) ↔
      ∀ rule, declaredRule? m c.type p = some rule → IsPlain rule.importPath := by
  have hget : (standard.registerManifest m).get? c.type p =
      (declaredRule? m c.type p).or (standard.get? c.type p) :=
    get?_registerManifest rfl m
  have hmodule : (∀ module, module? (standard.registerManifest m) p c = some module →
      IsPlain module) ↔
        ∀ rule, (standard.registerManifest m).get? c.type p = some rule →
          IsPlain rule.importPath := by
    unfold module?
    cases (standard.registerManifest m).get? c.type p with
    | none => simp
    | some rule =>
      by_cases hpath : rule.importPath = ""
      · have hempty : IsPlain "" := by decide
        simp [Mapping.Rule.isIntrinsic, hpath, hempty]
      · simp [Mapping.Rule.isIntrinsic, hpath]
  rw [hmodule, hget]
  cases hdeclared : declaredRule? m c.type p with
  | some rule => rw [Option.some_or]
  | none =>
    rw [Option.none_or]
    exact iff_of_true (fun rule hr => isPlain_of_standard hr) (by simp)

/-- With an accepted manifest, a page imports nothing but names that can be bound. -/
theorem bindable_pageOf (hv : Valid m) :
    (pageOf (standard.registerManifest m) p name root).context.imports.Bindable := by
  intro module tag hn
  obtain ⟨c, -, rule, hr, hi, -, rfl⟩ := hasName_pageOf.1 hn
  have hpath : rule.importPath ≠ "" := by simpa [Mapping.Rule.isIntrinsic] using hi
  exact ((validRule_of_get? hv hr).isReference hpath).isBindingName

/-- **The statements of a tree** say what was collected exactly if the paths that are declared
for its nodes are plain. -/
theorem readBack_pageOf_iff (hv : Valid m) :
    (pageOf (standard.registerManifest m) p name root).context.imports.ReadBack ↔
      ∀ c ∈ root.descendants, ∀ rule, declaredRule? m c.type p = some rule →
        IsPlain rule.importPath := by
  have hsheet : IsPlain pageStylesPath := by decide
  rw [Imports.readBack_iff (bindable_pageOf hv)]
  simp only [← forall_module?_iff, mem_keys_pageOf]
  constructor
  · intro h c hc module hmodule
    exact h module (.inl ⟨c, hc, hmodule⟩)
  · rintro h module (⟨c, hc, hmodule⟩ | ⟨-, rfl⟩)
    · exact h c hc module hmodule
    · exact hsheet

end Modules

/-- **When the statements of all pages say what was collected:** exactly if all declared paths
are plain. If one is not, a page of one component has a statement that is read otherwise. -/
theorem readBack_of_all_pages_iff {m : Manifest} {p : Platform} (hv : Valid m) :
    (∀ page name output, generatePage (standard.registerManifest m) page p name = .ok output →
        output.context.imports.ReadBack) ↔
      ∀ type rule, declaredRule? m type p = some rule → IsPlain rule.importPath := by
  constructor
  · intro hall type rule hrule
    have hr : (standard.registerManifest m).get? type p = some rule := by
      rw [get?_registerManifest rfl, ← declaredRule?, hrule, Option.some_or]
    have hsome : ∀ c ∈ (Component.leaf "" type).descendants,
        ((standard.registerManifest m).get? c.type p).isSome :=
      isSome_of_single rfl hr
    have hread := hall ⟨"", none, some (.leaf "" type)⟩ "" _
      (generatePage_eq_ok_iff.2 ⟨_, rfl, hsome, rfl⟩)
    exact (readBack_pageOf_iff hv).1 hread _ (.head _) rule hrule
  · intro hplain page name output hg
    obtain ⟨root, -, -, rfl⟩ := generatePage_eq_ok_iff.1 hg
    exact (readBack_pageOf_iff hv).2 fun c _ rule hrule => hplain c.type rule hrule

/-- **What the statements of a page say.** With an accepted manifest, a page has exactly one
statement for each module that it imports, made from the names collected of the module. A
statement is read as a declaration of this module and these names exactly if its module is
plain, and all statements are exactly if the paths that the manifest declares for the nodes
of the page are plain. -/
theorem generatePage_declares {text : String} {m : Manifest} {page : Page} {p : Platform}
    {name : String} {output : PageOutput} (hm : Manifest.parse text = .ok m)
    (h : generatePage (standard.registerManifest m) page p name = .ok output) :
    let imports := output.context.imports
    let statements := Import.ofImports imports
    ∃ root, page.components = some root ∧
      (statements.map (·.module)).Perm imports.modules.keys ∧ imports.modules.keys.Nodup ∧
      (∀ s ∈ statements, ∃ names, imports.names? s.module = some names ∧
        s = .names s.module names.items ∧
        (readImport s.statement.toList = some s ↔ IsPlain s.module)) ∧
      (imports.ReadBack ↔
        ∀ c ∈ root.descendants, ∀ rule, declaredRule? m c.type p = some rule →
          IsPlain rule.importPath) := by
  intro imports statements
  obtain ⟨-, -, -, hv⟩ := Manifest.parse_eq_ok_iff.1 hm
  obtain ⟨root, hroot, -, rfl⟩ := generatePage_eq_ok_iff.1 h
  refine ⟨root, hroot, imports.modules_ofImports_perm, imports.modules.nodup_keys, ?_,
    readBack_pageOf_iff hv⟩
  intro s hs
  obtain ⟨names, hget, heq⟩ := Imports.exists_names_of_mem hs
  exact ⟨names, hget, heq, Imports.readImport_eq_some_iff (bindable_pageOf hv) hs⟩

/-- The hypotheses of `generatePage_declares` are satisfiable, with every statement read as what
was collected: the sample manifest declares the path `cards`. -/
theorem cardRoot_declares :
    Manifest.parse Manifest.sampleText = .ok Manifest.sample ∧
      ∃ output,
        generatePage (standard.registerManifest .sample) ⟨"home", none, some cardRoot⟩ .h5 "home" =
          .ok output ∧ output.context.imports.ReadBack := by
  obtain ⟨root, hroot, -, -, -, hread⟩ :=
    generatePage_declares Manifest.parse_sampleText (generatePage_cardRoot "home")
  obtain rfl := Option.some.inj hroot
  have hplain : ∀ c ∈ cardRoot.descendants, ∀ rule ∈ declaredRule? .sample c.type .h5,
      IsPlain rule.importPath := by
    decide
  exact ⟨Manifest.parse_sampleText, _, generatePage_cardRoot "home", hread.2 hplain⟩

/-- A text that declares, for the browser, a tag of a module with a backslash in its path. -/
def backslashText : String :=
  "[components.Card.h5]\ncomponent = \"Card\"\nimport = \"lib\\\\cards\"\n" ++
    "[project]\nname = \"site\"\nplatform = \"h5\"\n"

/-- What `backslashText` declares. -/
def backslashManifest : Manifest where
  config := Manifest.sample.config
  components := .ofList [("Card", ⟨false, .ofList [(.h5, .imported "Card" "lib\\cards")]⟩)]

/-- The sections of `backslashText`. -/
def backslashSections : List Toml.Section := [
  ⟨false, ["components", "Card", "h5"],
    [⟨["component"], .string "Card"⟩, ⟨["import"], .string "lib\\cards"⟩]⟩,
  ⟨false, ["project"], [⟨["name"], .string "site"⟩, ⟨["platform"], .string "h5"⟩]⟩]

/-- The document that the sections of `backslashText` make. -/
def backslashDocument : Json := .object [
  ("components", .object [
    ("Card", .object [
      ("h5", .object [("component", .string "Card"), ("import", .string "lib\\cards")])])]),
  ("project", .object [("name", .string "site"), ("platform", .string "h5")])]

/-- The manifest with a backslash in an import path is accepted. -/
theorem parse_backslashText : Manifest.parse backslashText = .ok backslashManifest := by
  have hlines : Toml.lines? (3 * ((Toml.dropMark backslashText.toList).length + 1))
      (Toml.dropMark backslashText.toList) = some ([], backslashSections) := by
    cbv
  have hbuild : Toml.build? [] backslashSections = some backslashDocument := by
    cbv
  have hcheck : Manifest.check (.ofText "") backslashManifest = .ok () := rfl
  exact Manifest.parse_of_sections hlines hbuild rfl hcheck

/-- **A statement may name another module:** the manifest is accepted, and on a page with a card
the statement for the module `lib\cards` is read as one for `libcards`. -/
theorem backslashCard_misread :
    Manifest.parse backslashText = .ok backslashManifest ∧
      ∃ output,
        generatePage (standard.registerManifest backslashManifest)
          ⟨"home", none, some (.leaf "card" "Card")⟩ .h5 "home" = .ok output ∧
        Import.ofImports output.context.imports = [.names "lib\\cards" ["Card"]] ∧
        readImport (Import.names "lib\\cards" ["Card"]).statement.toList =
          some (.names "libcards" ["Card"]) ∧
        ¬ output.context.imports.ReadBack := by
  have hsome : ∀ c ∈ (Component.leaf "card" "Card").descendants,
      ((standard.registerManifest backslashManifest).get? c.type .h5).isSome := by
    decide
  have himports : (pageOf (standard.registerManifest backslashManifest) .h5 "home"
      (.leaf "card" "Card")).context.imports = (∅ : Imports).add "lib\\cards" "Card" := rfl
  obtain ⟨-, -, -, hv⟩ := Manifest.parse_eq_ok_iff.1 parse_backslashText
  refine ⟨parse_backslashText, pageOf _ .h5 "home" (.leaf "card" "Card"),
    generatePage_eq_ok_iff.2 ⟨_, rfl, hsome, rfl⟩, ?_, by cbv, fun hread => ?_⟩
  · rw [himports]
    cbv
  · have hplain := (readBack_pageOf_iff hv).1 hread _ (.head _) _ rfl
    exact absurd hplain (by decide)

end Generation
end Pagewright
