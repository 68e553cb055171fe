/-
# Markup is written in lines

The tags, the names of props and the code in a tree are written as they are; everything else that
could hold a line feed is written as a literal (`oneLine_attributeText`). So a tree without a line
feed in these (`Markup.Unbroken`) is written in lines: an opening or closing tag and a text between
tags hold no line feed, and none of them ends with a blank (`exists_lined`).
-/

import Pagewright.Proofs.Json.Printing
import Pagewright.Proofs.Source.Lines

namespace Pagewright

open Text (IsLine OneLine)

/-- A value whose code holds no line feed. -/
def PropValue.Unbroken : PropValue → Prop
  | .expression code => OneLine code
  | .literal _ => True

instance : DecidablePred PropValue.Unbroken
  | .expression code => inferInstanceAs (Decidable (OneLine code))
  | .literal _ => isTrue trivial

/-- A node without a line feed in its tag, in the name of a prop or in the code of one. -/
def Markup.Unbroken (m : Markup) : Prop :=
  OneLine m.tag ∧ ∀ e ∈ m.props.entries, OneLine e.1 ∧ e.2.Unbroken

instance : DecidablePred Markup.Unbroken := fun m =>
  inferInstanceAs (Decidable (OneLine m.tag ∧ ∀ e ∈ m.props.entries, OneLine e.1 ∧ e.2.Unbroken))

namespace Source
namespace Jsx

/-! ## Attributes -/

/-- Code in braces is one line if the code is. -/
theorem oneLine_braced {s : String} (h : OneLine s) : OneLine (braced s) := by
  rw [braced, Text.oneLine_append_iff, Text.oneLine_append_iff]
  exact ⟨⟨by decide, h⟩, by decide⟩

/-- An identifier is one line. -/
theorem oneLine_of_isIdentifier {key : String} (h : isIdentifier key) : OneLine key := by
  intro hmem
  unfold isIdentifier at h
  split at h
  · cases h
  · next c rest hkey =>
    rw [hkey] at hmem
    rw [Bool.and_eq_true, List.all_eq_true] at h
    rcases List.mem_cons.1 hmem with rfl | hrest
    · exact absurd h.1 (by decide)
    · exact absurd (h.2 _ hrest) (by decide)

/-- An entry of an object literal is one line. -/
theorem oneLine_objectEntry (e : String × Json) : OneLine (objectEntry e) := by
  rw [objectEntry, Text.oneLine_append_iff, Text.oneLine_append_iff]
  refine ⟨⟨?_, by decide⟩, e.2.oneLine_compact⟩
  split
  · next h => exact oneLine_of_isIdentifier h
  · exact Json.oneLine_quote e.1

/-- An object literal is one line. -/
theorem oneLine_objectLiteral (entries : List (String × Json)) :
    OneLine (objectLiteral entries) := by
  have hentries : ∀ s ∈ entries.map objectEntry, OneLine s := by
    intro s hs
    obtain ⟨e, -, rfl⟩ := List.mem_map.1 hs
    exact oneLine_objectEntry e
  unfold objectLiteral
  split
  · decide
  · rw [Text.oneLine_append_iff, Text.oneLine_append_iff]
    exact ⟨⟨by decide, Text.oneLine_join (by decide) hentries⟩, by decide⟩

/-- An attribute value that is plain is one line. -/
theorem oneLine_of_isPlainAttribute {s : String} (h : isPlainAttribute s) : OneLine s := by
  intro hmem
  have hall := List.all_eq_true.1 h _ hmem
  exact absurd hall (by decide)

/-- **An attribute** holds no line feed but one of its name or its code. -/
theorem oneLine_attributeText {name : String} {v : PropValue} (hname : OneLine name)
    (hv : v.Unbroken) : OneLine (attributeText name v) := by
  unfold attributeText
  rw [Text.oneLine_append_iff, Text.oneLine_append_iff]
  refine ⟨⟨hname, by decide⟩, ?_⟩
  split
  · exact oneLine_braced hv
  · split
    · next h =>
      rw [Text.oneLine_append_iff, Text.oneLine_append_iff]
      exact ⟨⟨by decide, oneLine_of_isPlainAttribute h⟩, by decide⟩
    · exact oneLine_braced (Json.oneLine_compact _)
  · exact oneLine_braced (oneLine_objectLiteral _)
  · exact oneLine_braced (Json.oneLine_compact _)

/-! ## Tags and text -/

variable {m : Markup}

/-- The attributes of an unbroken node are unbroken. -/
theorem unbroken_of_mem_attributes (h : m.Unbroken) {e : String × PropValue}
    (he : e ∈ attributes m) : OneLine e.1 ∧ e.2.Unbroken := by
  rcases List.mem_append.1 he with he | he
  · exact h.2 e (List.mem_filter.1 he).1
  · split at he
    · cases he
    · obtain rfl := List.mem_singleton.1 he
      have hstyle : OneLine "style" := by decide
      exact ⟨hstyle, trivial⟩

/-- The opening tag of an unbroken node is one line. -/
theorem oneLine_opening (h : m.Unbroken) : OneLine (opening m) := by
  refine Text.oneLine_join (by decide) fun s hs => ?_
  rcases List.mem_cons.1 hs with rfl | hs
  · exact Text.oneLine_append_iff.2 ⟨by decide, h.1⟩
  · obtain ⟨e, he, rfl⟩ := List.mem_map.1 hs
    have hattribute := unbroken_of_mem_attributes h he
    exact oneLine_attributeText hattribute.1 hattribute.2

/-- A tag that is opened is a line. -/
theorem isLine_append_bracket {s : String} (h : OneLine s) : IsLine (s ++ ">").toList := by
  rw [String.toList_append]
  exact Text.isLine_concat h (by decide)

/-- A tag that closes itself is a line. -/
theorem isLine_append_selfClosing {s : String} (h : OneLine s) : IsLine (s ++ " />").toList := by
  have hbracket : s ++ " />" = s ++ " /" ++ ">" := by
    rw [String.append_assoc]
    rfl
  rw [hbracket]
  exact isLine_append_bracket (Text.oneLine_append_iff.2 ⟨h, by decide⟩)

/-- The closing tag of an unbroken node is a line. -/
theorem isLine_closing (h : m.Unbroken) : IsLine (closing m).toList :=
  isLine_append_bracket (Text.oneLine_append_iff.2 ⟨by decide, h.1⟩)

/-- **A text between tags** is a line: plain text is trimmed, and any other is in braces. -/
theorem isLine_text (s : String) : IsLine (text s).toList := by
  unfold text
  split
  · next h =>
    simp only [isPlainText, Bool.and_eq_true, Bool.not_eq_true', beq_iff_eq] at h
    obtain ⟨⟨hne, htrim⟩, hplain⟩ := h
    have hnil : s.toList ≠ [] := fun hs => by
      rw [String.toList_eq_nil_iff.1 hs] at hne
      cases hne
    refine ⟨fun hmem => ?_, Text.exists_last_trim htrim hnil⟩
    have hmarkup := List.any_eq_false.1 hplain _ hmem
    exact hmarkup (by decide)
  · have hquote : OneLine ("\x7b" ++ Json.quote s) :=
      Text.oneLine_append_iff.2 ⟨by decide, Json.oneLine_quote s⟩
    rw [braced, String.toList_append]
    exact Text.isLine_concat hquote (by decide)

/-! ## Trees -/

/-- **A node is written** as a text between tags, as a tag on a line of its own, with or without a
text in it, or as a block around its children. -/
theorem fragments_cases (m : Markup) :
    (∃ s, fragments m = [.line (text s)]) ∨
      fragments m = [.line (opening m ++ " />")] ∨
      (∃ s, fragments m = [.line (opening m ++ ">" ++ text s ++ closing m)]) ∨
      fragments m =
        [.block (opening m ++ ">") (fragmentsOfAll m.children) (some (closing m))] := by
  obtain ⟨kind, tag, props, styles, content, children⟩ := m
  by_cases htext : kind = .text
  · left
    refine ⟨content.getD "", ?_⟩
    rcases children with - | ⟨first, - | ⟨second, rest⟩⟩
    all_goals simp [fragments, Markup.isText, Markup.content, htext]
  · right
    rcases children with - | ⟨first, - | ⟨second, rest⟩⟩
    · left
      simp [fragments, Markup.isText, htext]
    · right
      cases hfirst : first.kind == .text with
      | true =>
        left
        exact ⟨first.content, by simp [fragments, Markup.isText, htext, hfirst]⟩
      | false =>
        right
        simp [fragments, fragmentsOfAll, Markup.isText, htext, hfirst]
    · right
      right
      simp [fragments, fragmentsOfAll, Markup.isText, htext]

mutual

/-- **A tree is written in lines.** -/
theorem exists_lined (i : Indent) : ∀ m : Markup, (∀ node ∈ m.nodes, node.Unbroken) →
    ∃ lines, Lined i (fragments m) lines
  | ⟨kind, tag, props, styles, content, children⟩, h => by
    rw [Markup.nodes, List.forall_mem_cons] at h
    obtain ⟨hm, hchildren⟩ := h
    have hopening := oneLine_opening hm
    have hclosing := isLine_closing hm
    rcases fragments_cases ⟨kind, tag, props, styles, content, children⟩ with
      ⟨s, hs⟩ | hs | ⟨s, hs⟩ | hs
    · rw [hs]
      exact ⟨_, .line (isLine_text s)⟩
    · rw [hs]
      exact ⟨_, .line (isLine_append_selfClosing hopening)⟩
    · rw [hs]
      have hbefore : OneLine (opening _ ++ ">" ++ text s) :=
        Text.oneLine_append_iff.2
          ⟨(isLine_append_bracket hopening).newline, (isLine_text s).newline⟩
      refine ⟨_, .line ?_⟩
      rw [String.toList_append]
      exact hclosing.append hbefore
    · obtain ⟨lines, hlines⟩ := exists_linedOfAll i children hchildren
      rw [hs]
      exact ⟨_, .block (isLine_append_bracket hopening) hclosing hlines⟩

/-- Unbroken nodes are written in lines. -/
theorem exists_linedOfAll (i : Indent) : ∀ ms : List Markup,
    (∀ node ∈ Markup.nodesOfAll ms, node.Unbroken) → ∃ lines, Lined i (fragmentsOfAll ms) lines
  | [], _ => ⟨[], .nil⟩
  | m :: ms, h => by
    rw [Markup.nodesOfAll, List.forall_mem_append] at h
    obtain ⟨ls, hls⟩ := exists_lined i m h.1
    obtain ⟨rest, hrest⟩ := exists_linedOfAll i ms h.2
    exact ⟨ls ++ rest, hls.append hrest⟩

end

end Jsx
end Source
end Pagewright
