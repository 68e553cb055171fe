/-
# What is left of unsupported attributes

A platform drops an attribute by its name as it is authored, and a style sheet prints the names of
what is left in kebab-case. Renaming an attribute does not change the name that is printed
(`kebabCase_rename`), so a sheet prints the kebab-case names of all attributes that are not dropped
(`Sheet.prints_ofStyles_iff`). Unsupported attributes are therefore elided exactly if none of them
is authored in another spelling that has the same kebab-case form (`sheets_elide_iff`): `boxShadow`
is dropped, `box-shadow` and `BoxShadow` are printed as `box-shadow`.
-/

import Pagewright.Generation.Project
import Pagewright.Proofs.Generation.Reports
import Pagewright.Proofs.Style.TreeSheet

namespace Pagewright
namespace Style

/-! ## Declarations as they are printed -/

/-- The declarations of a sheet, block by block, as names and values. -/
def Sheet.blocks (s : Sheet) : List (String × List (String × String)) :=
  s.rules.map fun rule =>
    (rule.1, rule.2.entries.map fun e => (Naming.kebabCase e.1, cssValue e.2))

/-- A declaration on its line. -/
def declarationLine (d : String × String) : String := "  " ++ d.1 ++ ": " ++ d.2 ++ ";"

/-- A selector with its declarations in braces. -/
def blockText (block : String × List (String × String)) : String :=
  block.1 ++ " " ++
    if block.2.isEmpty then "\x7b\x7d"
    else "\x7b\n" ++ Text.join "\n" (block.2.map declarationLine) ++ "\n\x7d"

/-- Whether a sheet prints a declaration with a name. -/
def Sheet.Prints (s : Sheet) (name : String) : Prop :=
  ∃ block ∈ s.blocks, ∃ value, (name, value) ∈ block.2

/-- A sheet in which nothing is declared that a platform does not support. -/
def Sheet.Elides (p : Platform) (s : Sheet) : Prop :=
  ∀ key ∈ unsupported p, ¬ s.Prints (Naming.kebabCase key)

/-- A supported name that is printed like an unsupported one. -/
def Respells (p : Platform) (key : String) : Prop :=
  key ∉ unsupported p ∧ ∃ other ∈ unsupported p, Naming.kebabCase key = Naming.kebabCase other

instance (p : Platform) : DecidablePred (Respells p) := fun key =>
  inferInstanceAs (Decidable (key ∉ unsupported p ∧
    ∃ other ∈ unsupported p, Naming.kebabCase key = Naming.kebabCase other))

/-- **The text of a sheet** is its declarations, each on a line. -/
theorem Sheet.render_eq (s : Sheet) :
    s.render = Text.join "\n\n" (s.blocks.map blockText) := by
  rw [render, blocks, List.map_map]
  refine congrArg (Text.join "\n\n") (List.map_congr_left fun rule _ => ?_)
  have hlines : rule.2.entries.map (fun e =>
      "  " ++ Naming.kebabCase e.1 ++ ": " ++ cssValue e.2 ++ ";") =
      (rule.2.entries.map fun e => (Naming.kebabCase e.1, cssValue e.2)).map declarationLine := by
    rw [List.map_map]
    rfl
  rw [ruleText, declarations, hlines, Function.comp_apply, blockText, List.isEmpty_map]
  rfl

/-! ## What a platform leaves -/

variable {p : Platform}

/-- **A renamed attribute is printed under its own name:** the names that a platform gives are in
kebab-case. -/
theorem kebabCase_rename (p : Platform) (key : String) :
    Naming.kebabCase (rename p key) = Naming.kebabCase key := by
  have htable : ∀ e ∈ renames p, Naming.kebabCase e.2 = Naming.kebabCase e.1 := by
    -- the table depends on the family only
    unfold renames
    cases p.family <;> decide +kernel
  unfold rename
  cases hlookup : (renames p).lookup key with
  | none => rfl
  | some name =>
    obtain ⟨before, after, hsplit, -⟩ := List.lookup_eq_some_iff.1 hlookup
    have hmem : (key, name) ∈ renames p := by simp [hsplit]
    rw [Option.getD_some]
    exact htable (key, name) hmem

/-- **The names on a platform** are the new ones of the attributes that are supported. -/
theorem mem_keys_adapt_iff {styles : Dict String Json} {name : String} :
    name ∈ (adapt p styles).keys ↔
      ∃ key ∈ styles.keys, key ∉ unsupported p ∧ rename p key = name := by
  rw [adapt, Dict.mem_keys_ofList, List.mem_map]
  constructor
  · rintro ⟨adapted, hmem, rfl⟩
    obtain ⟨⟨key, v⟩, he, hsome⟩ := List.mem_filterMap.1 hmem
    have hkey : key ∉ unsupported p := fun h => by
      rw [transform?_eq_none_iff.2 h] at hsome
      cases hsome
    rw [mem_unsupported_iff, not_not] at hkey
    rw [transform?, if_pos hkey] at hsome
    obtain rfl := Option.some.inj hsome
    exact ⟨key, List.mem_map_of_mem he, by simpa [mem_unsupported_iff] using hkey, rfl⟩
  · rintro ⟨key, hkey, hsupported, rfl⟩
    obtain ⟨⟨_, v⟩, he, rfl⟩ := List.mem_map.1 hkey
    rw [mem_unsupported_iff, not_not] at hsupported
    exact ⟨_, List.mem_filterMap.2 ⟨_, he, if_pos hsupported⟩, rfl⟩

/-- A sheet prints a name exactly if a rule has an attribute that is spelled so. -/
theorem Sheet.prints_iff {s : Sheet} {name : String} :
    s.Prints name ↔ ∃ rule ∈ s.rules, ∃ key ∈ rule.2.keys, Naming.kebabCase key = name := by
  constructor
  · rintro ⟨block, hblock, value, hvalue⟩
    obtain ⟨rule, hrule, rfl⟩ := List.mem_map.1 hblock
    obtain ⟨e, he, heq⟩ := List.mem_map.1 hvalue
    exact ⟨rule, hrule, e.1, List.mem_map_of_mem he, congrArg Prod.fst heq⟩
  · rintro ⟨rule, hrule, key, hkey, rfl⟩
    obtain ⟨e, he, rfl⟩ := List.mem_map.1 hkey
    exact ⟨_, List.mem_map_of_mem hrule, cssValue e.2, List.mem_map.2 ⟨e, he, rfl⟩⟩

/-- **A sheet prints** what is not dropped from its style maps, under the authored names in
kebab-case. -/
theorem Sheet.prints_ofStyles_iff {styles : List (String × Dict String Json)} {name : String} :
    (Sheet.ofStyles p styles).Prints name ↔
      ∃ e ∈ styles, ∃ key ∈ e.2.keys, key ∉ unsupported p ∧ Naming.kebabCase key = name := by
  rw [prints_iff]
  constructor
  · rintro ⟨rule, hrule, key, hkey, rfl⟩
    obtain ⟨e, he, rfl⟩ := List.mem_map.1 (List.mem_filter.1 hrule).1
    obtain ⟨authored, hauthored, hsupported, rfl⟩ := mem_keys_adapt_iff.1 hkey
    exact ⟨e, he, authored, hauthored, hsupported, (kebabCase_rename p authored).symm⟩
  · rintro ⟨e, he, key, hkey, hsupported, rfl⟩
    have hadapted : rename p key ∈ (adapt p e.2).keys :=
      mem_keys_adapt_iff.2 ⟨key, hkey, hsupported, rfl⟩
    -- a style map that keeps a key is not empty, so its rule stays
    have hne : (adapt p e.2).isEmpty = false := by
      cases hempty : (adapt p e.2).isEmpty with
      | false => rfl
      | true =>
        rw [eq_empty_of_isEmpty hempty] at hadapted
        cases hadapted
    refine ⟨(e.1, adapt p e.2), ?_, rename p key, hadapted, kebabCase_rename p key⟩
    exact List.mem_filter.2 ⟨List.mem_map.2 ⟨e, he, rfl⟩, by simp [hne]⟩

/-- A sheet made of style maps elides exactly if none has a respelled attribute. -/
theorem Sheet.elides_ofStyles_iff {styles : List (String × Dict String Json)} :
    (Sheet.ofStyles p styles).Elides p ↔ ∀ e ∈ styles, ∀ key ∈ e.2.keys, ¬ Respells p key := by
  constructor
  · rintro h e he key hkey ⟨hsupported, other, hother, heq⟩
    exact h other hother (prints_ofStyles_iff.2 ⟨e, he, key, hkey, hsupported, heq⟩)
  · intro h other hother hprints
    obtain ⟨e, he, key, hkey, hsupported, heq⟩ := prints_ofStyles_iff.1 hprints
    exact h e he key hkey ⟨hsupported, other, hother, heq⟩

/-- The sheet of a tree elides exactly if no node has a respelled attribute. -/
theorem Sheet.elides_ofTree_iff {root : Component} :
    (Sheet.ofTree p root).Elides p ↔
      ∀ c ∈ root.descendants, ∀ key ∈ c.style.keys, ¬ Respells p key := by
  rw [ofTree, elides_ofStyles_iff, List.forall_mem_map]

/-- **Where a platform drops an attribute,** one can be spelled so that it is printed. -/
theorem respells_boxShadow (h : unsupported p ≠ []) : Respells p "box-shadow" := by
  cases p
  case h5 => exact absurd rfl h
  all_goals decide

end Style

namespace Generation

open Style

/-- **Unsupported attributes are elided from style sheets** by their names as they are authored.
A sheet is printed as its declarations. The sheet of a tree declares nothing that the platform does
not support exactly if no node has a supported attribute that is printed like an unsupported one,
and so does the sheet of the application. On a platform that drops an attribute this fails for some
tree. -/
theorem sheets_elide_iff (p : Platform) :
    (∀ s : Sheet, s.render = Text.join "\n\n" (s.blocks.map blockText)) ∧
      (∀ root, (Sheet.ofTree p root).Elides p ↔
        ∀ c ∈ root.descendants, ∀ key ∈ c.style.keys, ¬ Respells p key) ∧
      (∀ config, (globalSheet config p).Elides p ↔
        ∀ e ∈ config.globalStyles.entries, ∀ key ∈ e.2.keys, ¬ Respells p key) ∧
      ((∀ root, (Sheet.ofTree p root).Elides p) ↔ unsupported p = []) := by
  refine ⟨Sheet.render_eq, fun root => Sheet.elides_ofTree_iff,
    fun config => Sheet.elides_ofStyles_iff, fun h => ?_, fun h => ?_⟩
  · by_contra hne
    let root := { Component.leaf "" "" with style := .ofList [("box-shadow", .null)] }
    have hroot := Sheet.elides_ofTree_iff.1 (h root)
    exact hroot root (.head _) "box-shadow" (.head _) (respells_boxShadow hne)
  · intro root key hkey
    rw [h] at hkey
    cases hkey

/-- A box with the hyphenated name of an attribute that mini programs drop. -/
def hyphenatedRoot : Component :=
  { Component.leaf "root" "Container" with style := .ofList [("box-shadow", .string "none")] }

/-- **A hyphenated attribute is not elided:** for a mini program the sheet of a tree declares
`box-shadow`, of which `boxShadow` is dropped. -/
theorem hyphenatedRoot_prints :
    ¬ (Sheet.ofTree .weapp hyphenatedRoot).Elides .weapp ∧
      (Sheet.ofTree .weapp hyphenatedRoot).render =
        ".container-root \x7b\n  box-shadow: none;\n\x7d" := by
  constructor
  · intro h
    have hroot := Sheet.elides_ofTree_iff.1 h
    exact hroot hyphenatedRoot (.head _) "box-shadow" (.head _) (respells_boxShadow (by decide))
  · decide +kernel

end Generation
end Pagewright
