/-
# The tags of a generated page

Text aside, each node of the markup stands for a node of the tree and has the tag of the
rule for it, and the rules in force are valid. So with an accepted manifest every tag of a
page can be used (`generatePage_tags`):

| node | its tag |
| --- | --- |
| component | may be imported |
| element | is the name of an element |

and the same holds of every imported name, which is the tag of a component.
-/

import Pagewright.Proofs.Generation.Bindings
import Pagewright.Proofs.Lowering.Collected
import Pagewright.Proofs.Manifest.InForce

namespace Pagewright
namespace Generation

open Lowering (Realizes realizes_markup exists_zip_of_forall₂ needs_iff)
open Manifest (IsReference IsElementName RenamesNamed ValidRule renamesNamed_iff
  validRule_of_get?)
open Registry (standard)

/-- A markup node that stands for a node of a tree has a tag that fits its kind, if the rules
are valid. -/
theorem tag_of_realizes {r : Registry} {p : Platform} {c : Component} {node : Markup}
    (hvalid : ∀ rule, r.get? c.type p = some rule → ValidRule rule) (h : Realizes r p c node) :
    (node.kind = .component → IsReference node.tag) ∧
      (node.kind = .element → IsElementName node.tag) := by
  obtain ⟨rule, hr, htag, hkind⟩ := h
  rw [htag]
  refine ⟨fun hc => (hvalid rule hr).isReference (hkind.1 hc), fun he => ?_⟩
  refine (hvalid rule hr).isElementName (Classical.not_not.1 fun hpath => ?_)
  rw [hkind.2 hpath] at he
  cases he

/-- **The nodes of the markup** that are no text stand for nodes of the tree. -/
theorem exists_realizes {r : Registry} {p : Platform} {root : Component}
    (h : ∀ c ∈ root.descendants, (r.get? c.type p).isSome) {node : Markup}
    (hnode : node ∈ (Lowering.markup r p root).nodes) (htext : node.kind ≠ .text) :
    ∃ c ∈ root.descendants, Realizes r p c node := by
  have helement : node ∈ (Lowering.markup r p root).elements :=
    List.mem_filter.2 ⟨hnode, by simpa [Markup.isText] using htext⟩
  have hstands : List.Forall₂ (flip (Realizes r p)) (Lowering.markup r p root).elements
      root.descendants := List.Forall₂.flip (realizes_markup h)
  obtain ⟨c, hc⟩ := exists_zip_of_forall₂ hstands helement
  exact ⟨c, (List.of_mem_zip hc).2, List.forall₂_zip hstands hc⟩

/-- A panel around a card. The sample manifest declares a panel without import and a card of a
module. -/
def panelCard : Component :=
  { Component.leaf "panel" "Panel" with children := [.leaf "card" "Card"] }

/-- **Every tag can be used.** With an accepted manifest, the tag of every component of a page
may be imported, the tag of every element is an element name, and every imported name is
one that may be imported. No rule in force renames from or to an empty name. -/
theorem generatePage_tags {text : String} {m : Manifest} (hm : Manifest.parse text = .ok m) :
    (∀ page p name output,
      generatePage (standard.registerManifest m) page p name = .ok output →
        (∀ node ∈ output.markup.nodes,
          (node.kind = .component → IsReference node.tag) ∧
            (node.kind = .element → IsElementName node.tag)) ∧
        ∀ module tag, output.context.imports.hasName module tag → IsReference tag) ∧
      ∀ type p rule, (standard.registerManifest m).get? type p = some rule →
        RenamesNamed rule := by
  obtain ⟨-, -, -, hv⟩ := Manifest.parse_eq_ok_iff.1 hm
  refine ⟨fun page p name output h => ?_, fun type p rule hr =>
    renamesNamed_iff.2 (validRule_of_get? hv hr).renames⟩
  obtain ⟨root, -, hsome, rfl⟩ := generatePage_eq_ok_iff.1 h
  constructor
  · intro node hnode
    by_cases htext : node.kind = .text
    · simp [htext]
    · obtain ⟨c, -, hrealizes⟩ := exists_realizes hsome hnode htext
      exact tag_of_realizes (fun rule hr => validRule_of_get? hv hr) hrealizes
  · intro module tag hn
    obtain ⟨c, -, hneeds⟩ := hasName_pageOf.1 hn
    obtain ⟨hpath, rule, hr, rfl, rfl⟩ := needs_iff.1 hneeds
    exact (validRule_of_get? hv hr).isReference hpath

/-- The hypothesis of `generatePage_tags` is satisfiable, and what it says of pages is said of
one with a component and an element that the sample manifest declares. -/
theorem panelCard_tags :
    Manifest.parse Manifest.sampleText = .ok Manifest.sample ∧
      ∃ output, generatePage (standard.registerManifest .sample)
          ⟨"home", none, some panelCard⟩ .h5 "home" = .ok output ∧
        output.markup.tagNames = ["Section", "View"] ∧
        ∀ node ∈ output.markup.nodes, node.kind = .component → IsReference node.tag := by
  have hsome : ∀ c ∈ panelCard.descendants,
      ((standard.registerManifest .sample).get? c.type .h5).isSome := by
    decide
  have hpage : generatePage (standard.registerManifest .sample) ⟨"home", none, some panelCard⟩ .h5
      "home" = .ok (pageOf _ .h5 "home" panelCard) :=
    generatePage_eq_ok_iff.2 ⟨panelCard, rfl, hsome, rfl⟩
  refine ⟨Manifest.parse_sampleText, _, hpage, ?_, fun node hnode => ?_⟩
  · exact (Lowering.tagNames_markup panelCard hsome).trans (by decide)
  · exact (((generatePage_tags Manifest.parse_sampleText).1 _ _ _ _ hpage).1 node hnode).1

end Generation
end Pagewright
