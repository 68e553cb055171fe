/-
# Manifests of new workspaces

The name of a new workspace is put between quotes as it is. A package name is a plain text, so it
is read as itself, and the other lines are the same for all names: the manifest is accepted with
the name, the platform, the sample page and its one style (`parse_manifest`). A manifest with any
other name is refused, or read with another name (`reads_manifest_iff`).
-/

import Pagewright.Command.Scaffold
import Pagewright.Proofs.Manifest.Accepted
import Pagewright.Proofs.Text.Names
import Pagewright.Proofs.Toml.PlainLines

namespace Pagewright
namespace Scaffold

open Toml (lines? isKeyChar isPlainChar)

/-- The style map that a new workspace has for its pages. -/
def pageStyle : Dict String Json := .ofList [("backgroundColor", .string "#f5f5f5")]

/-- What the manifest of a new workspace says. -/
def scaffolded (name : String) (p : Platform) : Manifest where
  config := ⟨name, .initial, p, Project.Config.defaultOutputDir, none, none, none, [pagePath],
    .ofList [("page", pageStyle)]⟩
  components := ∅

/-- A text is accepted as a manifest of a project for a platform, with the sample page and one
style map. -/
def Reads (text name : String) (p : Platform) : Prop :=
  ∃ m, Manifest.parse text = .ok m ∧ m.config.name = name ∧ m.config.platform = p ∧
    m.config.pages = [pagePath] ∧ m.config.globalStyles = .ofList [("page", pageStyle)]

/-! ## Names -/

/-- The characters of a package name are printable ASCII. -/
theorem range_of_isPackageChar {c : Char} (h : Manifest.isPackageChar c) :
    ' ' ≤ c ∧ c < '\x7f' := by
  simp only [Manifest.isPackageChar, Bool.or_eq_true, beq_iff_eq] at h
  rcases h with ((h | rfl) | rfl) | rfl
  · obtain ⟨hlow, hhigh⟩ := Naming.range_of_isAsciiAlphanumeric h
    exact ⟨Nat.le_trans (by decide : 32 ≤ 48) hlow, Nat.lt_of_le_of_lt hhigh (by decide)⟩
  · decide
  · decide
  · decide

/-- The characters of a package name are plain. -/
theorem isPlainChar_of_isPackageChar {c : Char} (h : Manifest.isPackageChar c) :
    isPlainChar c := by
  obtain ⟨hspace, hdelete⟩ := range_of_isPackageChar h
  rw [Toml.isPlainChar_iff]
  refine ⟨?_, ?_, ?_⟩
  · simp [Toml.isTextChar, hspace, hdelete.ne]
  · rintro rfl
    revert h
    decide
  · rintro rfl
    revert h
    decide

/-- **A package name is plain.** -/
theorem isPlainChar_of_packageFault? {name : String} (h : Manifest.packageFault? name = none) :
    name.toList.all isPlainChar := by
  have hchars : name.toList.all Manifest.isPackageChar := by
    unfold Manifest.packageFault? at h
    split at h
    · cases h
    · next c rest hname =>
      rw [hname]
      split at h
      · cases h
      · split at h
        · cases h
        · split at h
          · cases h
          · split at h
            · cases h
            · next hall => simpa using hall
  rw [List.all_eq_true] at hchars ⊢
  exact fun c hc => isPlainChar_of_isPackageChar (hchars c hc)

/-! ## Lines -/

/-- The lines behind those of the name, the version and the platform. -/
def tail : List Char :=
  ("pages = [\"" ++ pagePath ++ "\"]\n\n[styles]\n" ++
    "page = \x7b backgroundColor = \"#f5f5f5\" \x7d\n").toList

/-- The sections of the manifest. -/
def sections (name : String) (p : Platform) : List Toml.Section := [
  ⟨false, ["project"], [⟨["name"], .string name⟩, ⟨["version"], .string "0.1.0"⟩,
    ⟨["platform"], .string p.id⟩, ⟨["pages"], .array [.string pagePath]⟩]⟩,
  ⟨false, ["styles"], [⟨["page"], .object [("backgroundColor", .string "#f5f5f5")]⟩]⟩]

/-- **The lines behind the platform** are those of the pages and of the styles. -/
theorem lines?_tail (fuel : Nat) :
    lines? (fuel + 20) tail = some ([⟨["pages"], .array [.string pagePath]⟩],
      [⟨false, ["styles"], [⟨["page"], .object [("backgroundColor", .string "#f5f5f5")]⟩]⟩]) := by
  cbv

/-- The document of the manifest. -/
def document (name : String) (p : Platform) : Json := .object [
  ("project", .object [("name", .string name), ("pages", .array [.string pagePath]),
    ("platform", .string p.id), ("version", .string "0.1.0")]),
  ("styles", .object [("page", .object [("backgroundColor", .string "#f5f5f5")])])]

/-- The sections of the manifest make its document. -/
theorem build?_sections (name : String) (p : Platform) :
    Toml.build? [] (sections name p) = some (document name p) := by
  have hentries : (sections name p).foldlM Toml.Entries.addSection [] = some [
      ("project", .table .written [("name", .value (.string name)),
        ("version", .value (.string "0.1.0")), ("platform", .value (.string p.id)),
        ("pages", .value (.array [.string pagePath]))]),
      ("styles", .table .written
        [("page", .value (.object [("backgroundColor", .string "#f5f5f5")]))])] := rfl
  have hproject (name version platform pages : Json) :
      Toml.sortedObject [("name", name), ("version", version), ("platform", platform),
        ("pages", pages)] =
      .object [("name", name), ("pages", pages), ("platform", platform),
        ("version", version)] := by
    cbv
  have hstyles (v : Json) : Toml.sortedObject [("page", v)] = .object [("page", v)] := by
    cbv
  have hroot (v w : Json) :
      Toml.sortedObject [("project", v), ("styles", w)] =
        .object [("project", v), ("styles", w)] := by
    cbv
  have hnone : Toml.Entries.addPairs [] [] = some [] := rfl
  simp only [Toml.build?, hnone, Option.bind_eq_bind, Option.bind_some, hentries, Toml.fieldsOf,
    Toml.Tree.toJson, hproject, hstyles, hroot, document]
  rfl

/-- The document of the manifest says what it is meant to say. -/
theorem ofJson?_document (name : String) (p : Platform) :
    Manifest.ofJson? (document name p) = some (scaffolded name p) := by
  cases p <;> rfl

/-- **The lines of the manifest:** one for each of the three texts, between the same others. -/
theorem toList_manifest (name : String) (p : Platform) :
    (manifest name p).toList =
      '[' :: ("project".toList ++ ']' :: '\n' ::
        ("name".toList ++ ' ' :: '=' :: ' ' :: '"' :: (name.toList ++ '"' :: '\n' ::
          ("version".toList ++ ' ' :: '=' :: ' ' :: '"' :: ("0.1.0".toList ++ '"' :: '\n' ::
            ("platform".toList ++ ' ' :: '=' :: ' ' :: '"' :: (p.id.toList ++ '"' :: '\n' ::
              tail))))))) := by
  have hname : "[project]\nname = \"".toList =
      '[' :: ("project".toList ++ ']' :: '\n' ::
        ("name".toList ++ [' ', '=', ' ', '"'])) := by
    decide
  have hversion : "\"\nversion = \"0.1.0\"\nplatform = \"".toList =
      '"' :: '\n' :: ("version".toList ++ ' ' :: '=' :: ' ' :: '"' :: ("0.1.0".toList ++
        '"' :: '\n' :: ("platform".toList ++ [' ', '=', ' ', '"']))) := by
    decide
  have htail : "\"\npages = [\"".toList ++ (pagePath.toList ++ ("\"]\n\n[styles]\n".toList ++
      "page = \x7b backgroundColor = \"#f5f5f5\" \x7d\n".toList)) = '"' :: '\n' :: tail := by
    decide
  have happend (a b c d e : String) :
      (a ++ name ++ b ++ p.id ++ c ++ pagePath ++ d ++ e).toList =
        a.toList ++ (name.toList ++ (b.toList ++ (p.id.toList ++
          (c.toList ++ (pagePath.toList ++ (d.toList ++ e.toList)))))) := by
    simp only [String.toList_append, List.append_assoc]
  refine (happend _ _ _ _ _).trans ?_
  refine (congrArg₂ (· ++ ·) hname (congrArg (name.toList ++ ·)
    (congrArg₂ (· ++ ·) hversion (congrArg (p.id.toList ++ ·) htail)))).trans ?_
  generalize "project".toList = project
  generalize "name".toList = key
  generalize "version".toList = version
  generalize "0.1.0".toList = initial
  generalize "platform".toList = platform
  simp only [List.cons_append, List.append_assoc, List.nil_append]

/-- **The lines of the manifest** are its sections, for a plain name. -/
theorem lines?_manifest {name : String} (h : name.toList.all isPlainChar) (p : Platform)
    (fuel : Nat) :
    lines? (fuel + 24) (manifest name p).toList = some ([], sections name p) := by
  have hid : p.id.toList.all isPlainChar := by cases p <;> decide
  have hinitial : "0.1.0".toList.all isPlainChar := by decide
  have hproject := Toml.lines?_header "project".toList (by decide) (by decide)
  have hname := Toml.lines?_pair "name".toList (by decide) (by decide) h
  have hversion := Toml.lines?_pair "version".toList (by decide) (by decide) hinitial
  have hplatform := Toml.lines?_pair "platform".toList (by decide) (by decide) hid
  rw [toList_manifest, hproject, hname, hversion, hplatform, lines?_tail]
  simp only [Option.map_some, String.ofList_toList]
  rfl

/-- **The manifest of a package name is accepted** and says what it is written for. -/
theorem parse_manifest {name : String} (h : Manifest.packageFault? name = none) (p : Platform) :
    Manifest.parse (manifest name p) = .ok (scaffolded name p) := by
  have hmark : Toml.dropMark (manifest name p).toList = (manifest name p).toList := by
    rw [toList_manifest]
    rfl
  have hfuel : 24 ≤ 3 * ((manifest name p).toList.length + 1) := by
    have hproject : "project".toList.length = 7 := by decide
    rw [toList_manifest, List.length_cons, List.length_append, hproject]
    omega
  obtain ⟨fuel, hfuel⟩ := Nat.exists_eq_add_of_le' hfuel
  have hvalid : Manifest.Valid (scaffolded name p) := ⟨h, fun e he => by cases he⟩
  refine Manifest.parse_of_sections (s := .ofText "") ?_ (build?_sections name p)
    (ofJson?_document name p) (Manifest.check_eq_ok_iff.2 hvalid)
  rw [hmark, hfuel]
  exact lines?_manifest (isPlainChar_of_packageFault? h) p fuel

/-- **The manifest of a new workspace is read back** exactly if the name is a package name. -/
theorem reads_manifest_iff {name : String} {p : Platform} :
    Reads (manifest name p) name p ↔ Manifest.packageFault? name = none := by
  constructor
  · rintro ⟨m, hm, hname, -, -, -⟩
    obtain ⟨-, -, -, hvalid⟩ := Manifest.parse_eq_ok_iff.1 hm
    exact hname ▸ hvalid.project
  · exact fun h => ⟨_, parse_manifest h p, rfl, rfl, rfl, rfl⟩

end Scaffold
end Pagewright
