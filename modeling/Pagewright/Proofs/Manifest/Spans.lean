/-
# Where a refused name stands

A name that is refused is searched for in the text of the manifest, as a part of a table header
and as a quoted value. Its bytes are marked where it is found in one of these forms:

| form | bytes in front of the name |
| --- | ---: |
| `.name]`, `.name.` | 1 |
| `= "name"`, `= 'name'` | 3 |

So a mark stands between characters of the text and covers exactly the name
(`Scope.covers_of_span?`), and a name without a mark stands nowhere in such a form
(`Scope.span?_eq_none_iff`). A refusal is about the name of the project, a component type or a tag
of the manifest that the text holds (`isRefusal_of_check`), and its mark covers that name
(`parse_span`).
-/

import Pagewright.Proofs.Manifest.Accepted
import Pagewright.Proofs.Text.Bytes

namespace Pagewright
namespace Manifest

/-! ## Marks -/

/-- A span is within a text, begins and ends between characters, and its bytes are those of a
name. -/
structure Span.Covers (span : Span) (text name : String) : Prop where
  inBounds : span.offset + span.length ≤ text.utf8ByteSize
  start : String.Pos.Raw.IsValid text ⟨span.offset⟩
  stop : String.Pos.Raw.IsValid text ⟨span.offset + span.length⟩
  bytes : text.toByteArray.extract span.offset (span.offset + span.length) = name.toByteArray

/-- **A span between two texts** covers what stands between them. -/
theorem Span.covers_middle (a name b : String) :
    Span.Covers ⟨a.utf8ByteSize, name.utf8ByteSize⟩ (a ++ name ++ b) name where
  inBounds := by
    rw [String.utf8ByteSize_append, String.utf8ByteSize_append]
    exact Nat.le_add_right ..
  start := Text.isValid_start a name b
  stop := Text.isValid_stop a name b
  bytes := Text.extract_middle a name b

/-- What stands in front of a name and behind it where it is looked for. -/
def forms : List (String × String) := [(".", "]"), (".", "."), ("= \"", "\""), ("= '", "'")]

/-- A name stands in a text in one of the forms in which it is looked for. -/
def Mentions (text name : String) : Prop :=
  ∃ form ∈ forms, form.1.toList ++ name.toList ++ form.2.toList <:+: text.toList

namespace Scope

/-- **A form that is found** has the name behind what stands in front of it. -/
theorem covers_of_spanIn? {text before name after : String} {span : Span}
    (h : spanIn? text.toList before.toList name.toList after.toList = some span) :
    span.Covers text name := by
  obtain ⟨skipped, hskipped, rfl⟩ := Option.map_eq_some_iff.1 h
  obtain ⟨rest, hrest⟩ := Text.before?_eq_some hskipped
  have htext : text = String.ofList skipped ++ before ++ name ++ (after ++ String.ofList rest) := by
    rw [← String.toList_inj, hrest]
    simp only [String.toList_append, String.toList_ofList, List.append_assoc]
  have hcovers := Span.covers_middle (String.ofList skipped ++ before) name
    (after ++ String.ofList rest)
  rwa [← htext, String.utf8ByteSize_append, Text.utf8ByteSize_ofList, ← Text.utf8Length_toList,
    ← Text.utf8Length_toList] at hcovers

/-- A name is not found exactly if it stands nowhere between these texts. -/
theorem spanIn?_eq_none_iff {text before name after : List Char} :
    spanIn? text before name after = none ↔ ¬ before ++ name ++ after <:+: text := by
  rw [spanIn?, Option.map_eq_none_iff, Text.before?_eq_none_iff]

variable {s : Scope} {name : String}

/-- **A mark** covers the name. -/
theorem covers_of_span? {span : Span} (h : s.span? name = some span) :
    span.Covers s.text name := by
  simp only [span?, Option.or_eq_some_iff] at h
  rcases h with h | ⟨-, h | ⟨-, h | ⟨-, h⟩⟩⟩
  · exact covers_of_spanIn? h
  · exact covers_of_spanIn? h
  · exact covers_of_spanIn? h
  · exact covers_of_spanIn? h

/-- **No mark** is given exactly if the name stands nowhere in the text in such a form. -/
theorem span?_eq_none_iff : s.span? name = none ↔ ¬ Mentions s.text name := by
  simp only [span?, Option.or_eq_none_iff, spanIn?_eq_none_iff, Mentions, forms, List.mem_cons,
    List.not_mem_nil, or_false, exists_eq_or_imp, exists_eq_left, not_or]

end Scope

/-! ## Refusals -/

/-- A name that is checked in a manifest, and what a refusal calls it. -/
inductive IsChecked (m : Manifest) : (name context : String) → Prop where
  | type {type : String} {d : Mapping.Declaration} (h : (type, d) ∈ m.components.entries) :
    IsChecked m type "component type"
  | imported {type : String} {d : Mapping.Declaration} {p : Platform} {rule : Mapping.Rule}
    (h : (type, d) ∈ m.components.entries) (hrule : (p, rule) ∈ d.rules.entries)
    (himport : rule.importPath ≠ "") :
    IsChecked m rule.tag ("component tag in '" ++ type ++ "." ++ p.id ++ "'")
  | element {type : String} {d : Mapping.Declaration} {p : Platform} {rule : Mapping.Rule}
    (h : (type, d) ∈ m.components.entries) (hrule : (p, rule) ∈ d.rules.entries)
    (himport : rule.importPath = "") :
    IsChecked m rule.tag ("element in '" ++ type ++ "." ++ p.id ++ "'")

/-- The name that a failure is about. -/
def Failure.name? : Failure → Option String
  | .projectName name _ _ | .reserved name _ _ | .badName name _ _ _ => some name
  | _ => none

/-- A failure is about the name of the project, a component type or a tag of a manifest. -/
def Failure.IsAbout (m : Manifest) : Failure → Prop
  | .projectName name _ _ => name = m.config.name
  | .reserved name context _ | .badName name context _ _ => m.IsChecked name context
  | _ => False

/-- Why a manifest is refused: for a name, with the mark that the text has for it, or for something
that is missing. -/
inductive IsRefusal (m : Manifest) (text : String) : Failure → Prop where
  | named {f : Failure} {name : String} (habout : f.IsAbout m) (hname : f.name? = some name)
    (hspan : f.span? = (Scope.ofText text).span? name) : IsRefusal m text f
  | noRules (path : String) : IsRefusal m text (.noRules path)
  | emptyName (path : String) : IsRefusal m text (.emptyName path)

variable {m : Manifest} {s : Scope} {f : Failure}

/-- A name that is refused is refused where it is checked. -/
theorem isRefusal_of_checkName {name kind : String} (hname : m.IsChecked name (s.context kind))
    (h : s.checkName name kind = .error f) : m.IsRefusal s.text f := by
  rw [Scope.checkName] at h
  split at h
  · obtain rfl := Except.error.inj h
    exact .named hname rfl rfl
  · split at h
    · obtain rfl := Except.error.inj h
      exact .named hname rfl rfl
    · cases h

/-- A tag that is refused is refused where it is checked. -/
theorem isRefusal_of_checkTag {tag : String} {imported : Bool}
    (hcomponent : imported = true → m.IsChecked tag (s.context "component tag"))
    (helement : imported = false → m.IsChecked tag (s.context "element"))
    (h : s.checkTag tag imported = .error f) : m.IsRefusal s.text f := by
  cases imported with
  | true =>
    rw [Scope.checkTag, if_pos rfl, bind_eq_error_iff] at h
    rcases h with h | ⟨-, h⟩
    · exact isRefusal_of_checkName (hcomponent rfl) h
    · split at h
      · cases h
      · obtain rfl := Except.error.inj h
        exact .named (hcomponent rfl) rfl rfl
  | false =>
    rw [Scope.checkTag, if_neg Bool.false_ne_true] at h
    split at h
    · obtain rfl := Except.error.inj h
      exact .named (helement rfl) rfl rfl
    · cases h

/-- What a name of a kind is called in the rule of a component for a platform. -/
theorem context_rule (text type kind : String) (p : Platform) :
    (((Scope.ofText text).push type).push p.id).context kind =
      kind ++ " in '" ++ type ++ "." ++ p.id ++ "'" := by
  simp [Scope.context, Scope.pathText, Scope.push, Scope.ofText, Text.join, String.append_assoc]

/-- A rule is refused for one of its names. -/
theorem isRefusal_of_checkRule {text type : String} {d : Mapping.Declaration}
    (hd : (type, d) ∈ m.components.entries) {e : Platform × Mapping.Rule}
    (he : e ∈ d.rules.entries) (h : checkRule ((Scope.ofText text).push type) e = .error f) :
    m.IsRefusal text f := by
  rw [checkRule, bind_eq_error_iff] at h
  rcases h with h | ⟨-, h⟩
  · refine isRefusal_of_checkTag (fun himport => ?_) (fun himport => ?_) h
    · rw [context_rule]
      exact .imported hd he (by simpa using himport)
    · rw [context_rule]
      exact .element hd he (by simpa using himport)
  · split at h
    · obtain rfl := Except.error.inj h
      exact .emptyName _
    · cases h

/-- A component is refused for one of its names. -/
theorem isRefusal_of_checkComponent {text : String} {e : String × Mapping.Declaration}
    (he : e ∈ m.components.entries) (h : checkComponent (.ofText text) e = .error f) :
    m.IsRefusal text f := by
  rw [checkComponent, bind_eq_error_iff] at h
  rcases h with h | ⟨-, h⟩
  · exact isRefusal_of_checkName (.type he) h
  · split at h
    · obtain rfl := Except.error.inj h
      exact .noRules _
    · obtain ⟨rule, hrule, h⟩ := exists_of_forM_eq_error h
      exact isRefusal_of_checkRule he hrule h

/-- **A refused manifest** is so for a name in it, which is marked if the text has it in one of the
forms, or without a mark. -/
theorem isRefusal_of_check {text : String} (h : check (.ofText text) m = .error f) :
    m.IsRefusal text f := by
  rw [check, bind_eq_error_iff] at h
  rcases h with h | ⟨-, h⟩
  · rw [Scope.checkProjectName] at h
    split at h
    · obtain rfl := Except.error.inj h
      exact .named rfl rfl rfl
    · cases h
  · obtain ⟨e, he, h⟩ := exists_of_forM_eq_error h
    exact isRefusal_of_checkComponent he h

/-- **A text is refused** as malformed, or for the manifest of its document. -/
theorem parse_eq_error_iff {text : String} :
    parse text = .error f ↔
      ((Toml.parse? text).bind ofJson? = none ∧ f = .malformed) ∨
        ∃ m, (Toml.parse? text).bind ofJson? = some m ∧ check (.ofText text) m = .error f := by
  rw [parse]
  cases (Toml.parse? text).bind ofJson? with
  | none => simp [eq_comm]
  | some m =>
    cases hcheck : check (.ofText text) m <;>
      simp [hcheck, bind, Except.bind, pure, Except.pure]

/-- **A mark covers the name** that a refusal is about: it is within the text, begins and ends
between characters, and its bytes are the name of the project, the component type or the tag. A
refusal of a name carries no mark only if the name stands nowhere in the text in one of the forms
in which it is looked for. -/
theorem parse_span {text : String} (h : parse text = .error f) :
    (∀ span, f.span? = some span → ∃ m name, (Toml.parse? text).bind ofJson? = some m ∧
        f.IsAbout m ∧ f.name? = some name ∧ span.Covers text name) ∧
      ∀ name, f.name? = some name → (f.span? = none ↔ ¬ Mentions text name) := by
  rcases parse_eq_error_iff.1 h with ⟨-, rfl⟩ | ⟨m, hm, hcheck⟩
  · exact ⟨nofun, nofun⟩
  · cases isRefusal_of_check hcheck with
    | named habout hname hmark =>
      refine ⟨fun span hspan => ?_, fun name' hname' => ?_⟩
      · exact ⟨m, _, hm, habout, hname, Scope.covers_of_span? (hmark ▸ hspan)⟩
      · obtain rfl := Option.some.inj (hname.symm.trans hname')
        rw [hmark]
        exact Scope.span?_eq_none_iff
    | noRules path => exact ⟨nofun, nofun⟩
    | emptyName path => exact ⟨nofun, nofun⟩

/-- A text with a tag that begins with no letter of ASCII, behind a comment that does not consist
of them either. -/
def sleeveText : String :=
  "# Größe\n[components.Card.h5]\ncomponent = 'ärmel'\nimport = \"cards\"\n" ++
    "[project]\nname = \"site\"\nplatform = \"h5\"\n"

/-- What `sleeveText` declares. -/
def sleeve : Manifest where
  config := ⟨"site", .initial, .h5, Project.Config.defaultOutputDir, none, none, none, [], ∅⟩
  components := .ofList [("Card", ⟨false, .ofList [(.h5, .imported "ärmel" "cards")]⟩)]

/-- The hypothesis of `parse_span` is satisfiable: the tag is marked behind its quote, by its bytes,
which are more than its characters. -/
theorem sleeveText_span :
    parse sleeveText =
        .error (.badName "ärmel" "component tag in 'Card.h5'" .start (some ⟨44, 6⟩)) ∧
      Span.Covers ⟨44, 6⟩ sleeveText "ärmel" := by
  have hdocument : Toml.parse? sleeveText = some (.object [
      ("components", .object [("Card", .object [
        ("h5", .object [("component", .string "ärmel"), ("import", .string "cards")])])]),
      ("project", .object [("name", .string "site"), ("platform", .string "h5")])]) := by
    cbv
  have hcheck : check (.ofText sleeveText) sleeve =
      .error (.badName "ärmel" "component tag in 'Card.h5'" .start (some ⟨44, 6⟩)) := by
    cbv
  have hparse := parse_eq_error_iff.2 (.inr ⟨sleeve, by rw [hdocument]; rfl, hcheck⟩)
  obtain ⟨m, name, -, -, hname, hcovers⟩ := (parse_span hparse).1 ⟨44, 6⟩ rfl
  obtain rfl := Option.some.inj hname
  exact ⟨hparse, hcovers⟩

end Manifest
end Pagewright
