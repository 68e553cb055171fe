/-
# A page and its preview

A page and its preview write one tree, the page two levels deep in its component and the preview
at the margin. Where the tree is written in lines, the code of the page holds the lines of the
preview, each behind four spaces, between the fixed lines of the component
(`generatePage_code`).
-/

import Pagewright.Proofs.Generation.Outcome
import Pagewright.Proofs.Source.JsxLines

namespace Pagewright
namespace Source

/-- Rendering fragments is writing their text at the outermost level. -/
theorem render_eq_textOfAll (fs : List Fragment) : render fs = textOfAll default 0 fs :=
  (congrArg Writer.text (writes_fragments (i := default) 0 fs "")).trans String.empty_append

/-- The lines of markup that is written in lines are these lines. -/
theorem Lined.linesOf_jsx {m : Markup} {lines : List String}
    (h : Lined default (Jsx.fragments m) lines) :
    Text.linesOf (Jsx.render m).toList = lines.map String.toList := by
  rw [Jsx.render, String.toList_ofList, render_eq_textOfAll]
  exact h.linesOf_trimEnd

/-- **A component** writes its tree two levels deep. -/
theorem textOfAll_functionComponent (name : String) (root : Markup) :
    textOfAll default 0 (functionComponent name root) =
      "export default function " ++ name ++ "() \x7b\n" ++ "  return (\n" ++
        textOfAll default 2 (Jsx.fragments root) ++ "  );\n" ++ "\x7d\n" := by
  have hne : "export default function " ++ name ++ "() \x7b" ≠ "" := fun h =>
    absurd (String.append_eq_empty_iff.1 h).2 (by decide)
  have hheader : lineText default 0 ("export default function " ++ name ++ "() \x7b") =
      "export default function " ++ name ++ "() \x7b\n" := by
    have hend : "() \x7b\n" = "() \x7b" ++ "\n" := rfl
    rw [lineText_of_ne hne, lineAt, hend]
    simp [String.append_assoc]
  have hreturn : textOfAll default 1 [.block "return (" (Jsx.fragments root) (some ");")] =
      "  return (\n" ++ textOfAll default 2 (Jsx.fragments root) ++ "  );\n" := by
    rw [textOfAll, textOfAll, String.append_empty]
    rfl
  have hbrace : lineText default 0 "\x7d" = "\x7d\n" := rfl
  rw [functionComponent, textOfAll, Fragment.textAt, hheader, hreturn, hbrace]
  simp only [textOfAll, String.append_empty, String.append_assoc]

end Source

namespace Generation

open Source

variable {r : Registry} {p : Platform} {page : Page} {name : String} {output : PageOutput}

/-- **A page and its preview show the same markup:** where a page is made from a tree without a
line feed in its tags, its prop names and its code, the preview is made too, and the code of the
page is its import statements, a blank line if there are any, and its component, in which the
lines of the preview stand behind four spaces. -/
theorem generatePage_code (h : generatePage r page p name = .ok output)
    (hunbroken : ∀ node ∈ output.markup.nodes, node.Unbroken) :
    ∃ shown, preview r page p = .ok shown ∧
      output.code =
        String.join ((Import.ofImports output.context.imports).map fun s => s.statement ++ "\n") ++
          (if (Import.ofImports output.context.imports).isEmpty then "" else "\n") ++
          ("export default function " ++ Naming.componentName name ++ "() \x7b\n" ++
            "  return (\n" ++
            String.join ((Text.linesOf shown.jsx.toList).map fun line =>
              "    " ++ String.ofList line ++ "\n") ++
            "  );\n" ++ "\x7d\n") := by
  obtain ⟨root, hroot, hsome, rfl⟩ := generatePage_eq_ok_iff.1 h
  have hown : generatePage r page p page.name = .ok (pageOf r p page.name root) :=
    generatePage_eq_ok_iff.2 ⟨root, hroot, hsome, rfl⟩
  have hshown : preview r page p = .ok ⟨Jsx.render (Lowering.markup r p root),
      (Style.Sheet.ofTree p root).render, Lowering.markup r p root⟩ := by
    rw [preview, hown]
    rfl
  obtain ⟨lines, hlines⟩ := Jsx.exists_lined default (Lowering.markup r p root) hunbroken
  have hmargin : lineAt default 2 = fun s => "    " ++ s ++ "\n" := rfl
  have hdeep : textOfAll default 2 (Jsx.fragments (Lowering.markup r p root)) =
      String.join ((Text.linesOf (Jsx.render (Lowering.markup r p root)).toList).map fun line =>
        "    " ++ String.ofList line ++ "\n") := by
    rw [hlines.linesOf_jsx, hlines.textOfAll_eq, List.map_map, hmargin]
    simp [Function.comp_def]
  refine ⟨_, hshown, ?_⟩
  have hcode := pageFile_render_eq name (pageOf r p name root).context.imports
    (Lowering.markup r p root)
  rw [textOfAll_functionComponent, hdeep] at hcode
  exact hcode

/-- A view with a text and a button. -/
def noticeRoot : Component :=
  { Component.leaf "root" "Container" with
    children := [
      { Component.leaf "title" "Text" with
        props := .ofList [("children", .literal (.string "Closed"))] },
      { Component.leaf "more" "Button" with
        props := .ofList [("onClick", .expression "go")] }] }

/-- The hypotheses of `generatePage_code` are satisfiable, by a tree with a block, a text in a tag
and code. -/
theorem noticePage_code :
    ∃ output shown,
      generatePage .standard ⟨"notice", none, some noticeRoot⟩ .weapp "board" = .ok output ∧
      preview .standard ⟨"notice", none, some noticeRoot⟩ .weapp = .ok shown ∧
      shown.jsx =
        "<View>\n  <Text>Closed</Text>\n  <Button onClick=\x7bgo\x7d />\n</View>" ∧
      output.code =
        "import \x7b Button, Text, View \x7d from \"@tarojs/components\";\n\n" ++
          "export default function Board() \x7b\n" ++ "  return (\n" ++
          "    <View>\n" ++ "      <Text>Closed</Text>\n" ++
          "      <Button onClick=\x7bgo\x7d />\n" ++ "    </View>\n" ++
          "  );\n" ++ "\x7d\n" := by
  have hsome : ∀ c ∈ noticeRoot.descendants, (Registry.standard.get? c.type .weapp).isSome := by
    decide
  have hunbroken : ∀ node ∈ (Lowering.markup .standard .weapp noticeRoot).nodes,
      node.Unbroken := by
    decide
  have hpage (name : String) :
      generatePage .standard ⟨"notice", none, some noticeRoot⟩ .weapp name =
        .ok (pageOf .standard .weapp name noticeRoot) :=
    generatePage_eq_ok_iff.2 ⟨noticeRoot, rfl, hsome, rfl⟩
  obtain ⟨shown, hshown, hcode⟩ := generatePage_code (hpage "board") hunbroken
  have hjsx : shown.jsx = Jsx.render (Lowering.markup .standard .weapp noticeRoot) := by
    rw [preview, hpage] at hshown
    obtain rfl := Except.ok.inj hshown
    rfl
  rw [hjsx] at hcode
  refine ⟨_, shown, hpage "board", hshown, hjsx.trans ?_, hcode.trans ?_⟩
  · decide +kernel
  · decide +kernel

end Generation
end Pagewright
