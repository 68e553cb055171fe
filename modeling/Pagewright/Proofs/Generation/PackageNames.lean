/-
# Package names

A package name is one part, or a scope and a part; a part is not empty and has no slash. An import
path belongs to the package in front of it, which ends with the path or at a slash. The names
that paths are recorded under are known exactly (`packageName?_eq_some_iff`): the part behind a
scope is looked at, the scope is not. So the paths of an alias `@` are recorded under what is no
package name, and nothing else is (`packageName?_isPackageName_iff`). It follows when the packages
that a whole project imports, and has in its manifest, have package names: exactly if no module of
an alias is recorded (`forall_isPackageName_iff`).

| import path | recorded | a package name |
| --- | --- | --- |
| `pkg`, `pkg/sub` | `pkg` | yes |
| `@scope/pkg/sub` | `@scope/pkg` | yes |
| `@/components/Card` | `@/components` | no |
| `@scope`, `@scope//pkg`, `./file`, `/file` | nothing | |
-/

import Pagewright.Proofs.Generation.Packages

namespace Pagewright

open Text (splitWhere splitWhere_eq_cons_iff)

/-- A part of a package name. -/
structure IsPart (s : String) : Prop where
  ne_empty : s ≠ ""
  whole : '/' ∉ s.toList

/-- A package name: one part that no relative path and no scope begins with, or a scope and a
part. -/
inductive IsPackageName : String → Prop
  | bare {name : String} (part : IsPart name)
      (front : ∀ c ∈ name.toList.head?, c ≠ '.' ∧ c ≠ '@') : IsPackageName name
  | inScope {scope name : String} (scopePart : IsPart scope) (part : IsPart name) :
      IsPackageName ("@" ++ scope ++ "/" ++ name)

/-- Whether a path is a name or leads into it: a slash stands behind the name. -/
def IsBelow (name path : String) : Prop := path = name ∨ ∃ sub, path = name ++ "/" ++ sub

variable {path name : String}

/-- A path leads into a name exactly if it is the name or goes on with a slash. -/
theorem isBelow_iff :
    IsBelow name path ↔
      path.toList = name.toList ∨ ∃ sub, path.toList = name.toList ++ '/' :: sub := by
  have hsub (sub : String) :
      path = name ++ "/" ++ sub ↔ path.toList = name.toList ++ '/' :: sub.toList := by
    rw [← String.toList_inj, String.append_assoc, String.toList_append, String.toList_append]
    rfl
  refine or_congr String.toList_inj.symm ⟨?_, ?_⟩
  · rintro ⟨sub, h⟩
    exact ⟨sub.toList, (hsub sub).1 h⟩
  · rintro ⟨sub, h⟩
    exact ⟨String.ofList sub, (hsub _).2 (by rwa [String.toList_ofList])⟩

/-- A name leads to itself. -/
theorem isBelow_self : IsBelow name name := .inl rfl

/-! ## The pieces of a path -/

/-- The first piece of a path is a part, and the path leads into it. -/
theorem exists_splitWhere_iff {first : List Char} :
    (∃ rest, splitWhere (· == '/') path.toList = first :: rest) ↔
      '/' ∉ first ∧ IsBelow (String.ofList first) path := by
  simp only [splitWhere_eq_cons_iff, isBelow_iff, String.toList_ofList]
  constructor
  · rintro ⟨rest, hfirst, ⟨hpath, -⟩ | ⟨u, hpath, -⟩⟩
    · exact ⟨hfirst, .inl hpath⟩
    · exact ⟨hfirst, .inr ⟨u, hpath⟩⟩
  · rintro ⟨hfirst, hpath | ⟨u, hpath⟩⟩
    · exact ⟨[], hfirst, .inl ⟨hpath, rfl⟩⟩
    · exact ⟨_, hfirst, .inr ⟨u, hpath, rfl⟩⟩

/-- The first two pieces. -/
theorem exists_splitWhere_two_iff {first second : List Char} :
    (∃ more, splitWhere (· == '/') path.toList = first :: second :: more) ↔
      '/' ∉ first ∧ '/' ∉ second ∧ IsBelow (String.ofList (first ++ '/' :: second)) path := by
  simp only [splitWhere_eq_cons_iff, isBelow_iff, String.toList_ofList]
  constructor
  · rintro ⟨more, hfirst, ⟨-, h⟩ | ⟨u, hpath, hsecond, h⟩⟩
    · cases h
    · refine ⟨hfirst, hsecond, ?_⟩
      rcases h with ⟨rfl, -⟩ | ⟨v, rfl, -⟩
      · exact .inl hpath
      · exact .inr ⟨v, by rw [hpath, List.append_assoc, List.cons_append]⟩
  · rintro ⟨hfirst, hsecond, hpath | ⟨v, hpath⟩⟩
    · exact ⟨[], hfirst, .inr ⟨second, hpath, hsecond, .inl ⟨rfl, rfl⟩⟩⟩
    · rw [List.append_assoc, List.cons_append] at hpath
      exact ⟨_, hfirst, .inr ⟨_, hpath, hsecond, .inr ⟨v, rfl, rfl⟩⟩⟩

/-- **What a path is recorded under**, by its pieces. -/
theorem packageName?_eq_some_iff_pieces :
    packageName? path = some name ↔
      (∃ first, first ≠ [] ∧ (∀ c ∈ first.head?, c ≠ '.' ∧ c ≠ '@') ∧ name = String.ofList first ∧
        ∃ rest, splitWhere (· == '/') path.toList = first :: rest) ∨
      ∃ scope second, second ≠ [] ∧ name = String.ofList ('@' :: scope ++ '/' :: second) ∧
        ∃ more, splitWhere (· == '/') path.toList = ('@' :: scope) :: second :: more := by
  unfold packageName?
  cases splitWhere (· == '/') path.toList with
  | nil => simp
  | cons first rest =>
    cases first with
    | nil => simp
    | cons c scope =>
      dsimp only
      -- What stands in front decides which pieces are looked at.
      by_cases hdot : c = '.'
      · simp [hdot]
      by_cases hat : c = '@'
      · subst hat
        cases rest with
        | nil => simp
        | cons second more =>
          cases second with
          | nil => simp
          | cons d second => simp [eq_comm, String.append_assoc]
      · simpa [hdot, hat] using eq_comm

/-! ## What is recorded -/

theorem IsPart.toList_ne_nil {s : String} (h : IsPart s) : s.toList ≠ [] :=
  String.toList_eq_nil_iff.not.2 h.ne_empty

/-- Characters without a slash, at least one, are a part. -/
theorem isPart_ofList {s : List Char} (hne : s ≠ []) (h : '/' ∉ s) : IsPart (String.ofList s) where
  ne_empty := String.ofList_eq_empty_iff.not.2 hne
  whole := by rwa [String.toList_ofList]

/-- A scope and a part, as one text. -/
theorem ofList_scoped (scope part : List Char) :
    String.ofList ('@' :: scope ++ '/' :: part) =
      "@" ++ String.ofList scope ++ "/" ++ String.ofList part := by
  simp [← String.toList_inj]

/-- **What a path is recorded under:** the package name that it leads into, or a part behind an
empty scope. -/
theorem packageName?_eq_some_iff :
    packageName? path = some name ↔
      IsBelow name path ∧ (IsPackageName name ∨ ∃ part, IsPart part ∧ name = "@/" ++ part) := by
  simp only [packageName?_eq_some_iff_pieces, exists_splitWhere_iff, exists_splitWhere_two_iff]
  constructor
  · rintro (⟨first, hne, hfront, rfl, hwhole, hbelow⟩ |
      ⟨scope, second, hne, rfl, hscope, hsecond, hbelow⟩)
    · refine ⟨hbelow, .inl (.bare (isPart_ofList hne hwhole) ?_)⟩
      rwa [String.toList_ofList]
    · have hscope : '/' ∉ scope := fun h => hscope (.tail _ h)
      have hpart := isPart_ofList hne hsecond
      refine ⟨hbelow, ?_⟩
      rw [ofList_scoped]
      -- The scope is where a package name and what is recorded differ.
      by_cases hempty : scope = []
      · subst hempty
        exact .inr ⟨_, hpart, rfl⟩
      · exact .inl (.inScope (isPart_ofList hempty hscope) hpart)
  · have hscoped (scope part : String) (hscope : '/' ∉ scope.toList) (hpart : IsPart part)
        (hbelow : IsBelow ("@" ++ scope ++ "/" ++ part) path) :
        ∃ s t, t ≠ [] ∧ "@" ++ scope ++ "/" ++ part = String.ofList ('@' :: s ++ '/' :: t) ∧
          '/' ∉ '@' :: s ∧ '/' ∉ t ∧ IsBelow (String.ofList ('@' :: s ++ '/' :: t)) path := by
      have htext := ofList_scoped scope.toList part.toList
      rw [String.ofList_toList, String.ofList_toList] at htext
      exact ⟨scope.toList, part.toList, hpart.toList_ne_nil, htext.symm,
        List.mem_cons.not.2 (not_or.2 ⟨by decide, hscope⟩), hpart.whole, htext ▸ hbelow⟩
    rintro ⟨hbelow, hname | ⟨part, hpart, rfl⟩⟩
    · cases hname with
      | bare hpart hfront =>
        refine .inl ⟨name.toList, hpart.toList_ne_nil, hfront, String.ofList_toList.symm,
          hpart.whole, ?_⟩
        rwa [String.ofList_toList]
      | inScope hscope hpart => exact .inr (hscoped _ _ hscope.whole hpart hbelow)
    · exact .inr (hscoped "" _ List.not_mem_nil hpart hbelow)

/-- A path begins with the name that it leads into. -/
theorem IsBelow.isPrefix (h : IsBelow name path) : name.toList <+: path.toList := by
  rcases isBelow_iff.1 h with hpath | ⟨sub, hpath⟩
  · exact hpath ▸ List.prefix_rfl
  · exact ⟨_, hpath.symm⟩

/-- **No package name has an empty scope**, nor has a path that leads into one. -/
theorem IsPackageName.not_alias (h : IsPackageName name) (hbelow : IsBelow name path) :
    ¬ ['@', '/'] <+: path.toList := by
  obtain ⟨rest, hpath⟩ := hbelow.isPrefix
  rw [← hpath]
  cases h with
  | bare hpart hfront =>
    obtain ⟨c, more, hname⟩ := List.exists_cons_of_ne_nil hpart.toList_ne_nil
    rw [hname] at hfront ⊢
    rw [List.cons_append, List.cons_prefix_cons]
    rintro ⟨rfl, -⟩
    exact (hfront _ rfl).2 rfl
  | @inScope scope name hscope _ =>
    obtain ⟨c, more, hname⟩ := List.exists_cons_of_ne_nil hscope.toList_ne_nil
    have hwhole := hscope.whole
    have htext : ("@" ++ scope ++ "/" ++ name).toList =
        '@' :: c :: (more ++ '/' :: name.toList) := by
      simp [String.toList_append, hname]
    rw [htext, List.cons_append, List.cons_append, List.cons_prefix_cons, List.cons_prefix_cons]
    rintro ⟨-, rfl, -⟩
    exact hwhole (hname ▸ List.mem_cons_self ..)

/-- **What is recorded is a package name** exactly if the path does not begin with an empty
scope. -/
theorem isPackageName_iff (h : packageName? path = some name) :
    IsPackageName name ↔ ¬ ['@', '/'] <+: path.toList := by
  obtain ⟨hbelow, hname⟩ := packageName?_eq_some_iff.1 h
  refine ⟨fun hname => hname.not_alias hbelow, fun hscope => ?_⟩
  rcases hname with hname | ⟨part, -, rfl⟩
  · exact hname
  · refine absurd (List.IsPrefix.trans ⟨part.toList, ?_⟩ hbelow.isPrefix) hscope
    rw [String.toList_append]
    rfl

/-- **Recorded names.** A path that is recorded under a name is the name or leads into it, and the
name is recorded under itself. It is a package name, one part or a scope and a part, unless the
path begins with an empty scope. Conversely, a package name and each path that leads into it are
recorded under the name. -/
theorem packageName?_isPackageName_iff (path name : String) :
    (packageName? path = some name →
      IsBelow name path ∧ packageName? name = some name ∧
        (IsPackageName name ↔ ¬ ['@', '/'] <+: path.toList)) ∧
      (IsPackageName name → IsBelow name path → packageName? path = some name) := by
  refine ⟨fun h => ?_, fun hname hbelow => packageName?_eq_some_iff.2 ⟨hbelow, .inl hname⟩⟩
  obtain ⟨hbelow, hname⟩ := packageName?_eq_some_iff.1 h
  exact ⟨hbelow, packageName?_eq_some_iff.2 ⟨isBelow_self, hname⟩, isPackageName_iff h⟩

/-- The hypotheses of `packageName?_isPackageName_iff` are satisfiable, by a path into a package
with a scope, and so by the file behind it. -/
theorem packageName?_cardPath :
    packageName? "@acme/ui/card" = some "@acme/ui" ∧ IsBelow "@acme/ui" "@acme/ui/card" ∧
      IsPackageName "@acme/ui" ∧ packageName? "@acme/ui/card/index.js" = some "@acme/ui" := by
  have hname : packageName? "@acme/ui/card" = some "@acme/ui" := by decide
  obtain ⟨hbelow, -, hscope⟩ := (packageName?_isPackageName_iff "@acme/ui/card" _).1 hname
  have hpackage := hscope.2 (by decide)
  have hindex : IsBelow "@acme/ui" "@acme/ui/card/index.js" := .inr ⟨"card/index.js", by decide⟩
  exact ⟨hname, hbelow, hpackage, (packageName?_isPackageName_iff _ _).2 hpackage hindex⟩

/-- A path of an alias is recorded, under what is no package name. -/
theorem packageName?_aliasPath :
    packageName? "@/components/Card" = some "@/components" ∧ ¬ IsPackageName "@/components" ∧
      (Dependencies.empty.addPath "@/components/Card").contains "@/components" := by
  have hname : packageName? "@/components/Card" = some "@/components" := by decide
  refine ⟨hname, fun h => ?_, by decide⟩
  exact (isPackageName_iff hname).1 h (by decide)

namespace Generation

/-- **The packages that the pages of a project import** have package names exactly if no module that
begins with an empty scope is recorded. -/
theorem forall_isPackageName_iff {code : Project.Sources} :
    (∀ package, ImportsPackage code package → IsPackageName package) ↔
      ∀ source ∈ code.pages.values, ∀ module ∈ source.imports.modules.keys,
        ['@', '/'] <+: module.toList → packageName? module = none := by
  constructor
  · intro h source hsource module hmodule hscope
    by_contra hrecorded
    obtain ⟨package, hpackage⟩ := Option.ne_none_iff_exists'.1 hrecorded
    have hname := h package ⟨source, hsource, module, hmodule, hpackage⟩
    exact (isPackageName_iff hpackage).1 hname hscope
  · rintro h package ⟨source, hsource, module, hmodule, hpackage⟩
    refine (isPackageName_iff hpackage).2 fun hscope => ?_
    rw [h source hsource module hmodule hscope] at hpackage
    cases hpackage

end Generation
end Pagewright
