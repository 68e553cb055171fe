/-
# Writing a project over what is there

A generated project has one file that is written only once, the settings of the developer tools
(`Placing.overwrite_eq_ifMissing_iff`); its files are safe and have places of their own. So
generating into a directory changes what is below it at the places of the files only, and keeps
settings that were edited by hand; doing it again changes nothing, and a dry run never does
(`writeProject_generated`). It is so on a disk as far as everything succeeds
(`run_writeProject_below`).

| file | before | after | reported |
| --- | --- | --- | --- |
| the developer tools' settings | there | as before | as skipped |
| the developer tools' settings | not there | as generated | as written |
| any other file of the project | whatever | as generated | as written |
| any other file | whatever | as before | not at all |
-/

import Pagewright.Command.Run
import Pagewright.Proofs.Disk.Below
import Pagewright.Proofs.Generation.Files

namespace Pagewright

open Project (File FileSet IsSafe developerConfigPath)

namespace Generation

open Project (Sources)
open Project.Sources (registered configFiles pageFiles styleFiles)

namespace Placing

variable {r : Registry} {p : Platform} {pages : List Page} {config : Project.Config}
  {placed : List Placed} {e : String × File}

/-- A file of a project is one that is registered. -/
theorem mem_registered_of_mem_entries (h : Placing r p pages placed)
    (he : e ∈ (assemble placed p config).toFileSet.entries) :
    e ∈ (assemble placed p config).registered := by
  have hfiles := (FileSet.entries_perm _).subset he
  rwa [Sources.toFileSet_eq, FileSet.entries_registerAll (h.nodup_registered config)] at hfiles

/-- **The developer tools' settings** are the one file that is not written over. -/
theorem overwrite_eq_ifMissing_iff (h : Placing r p pages placed)
    (he : e ∈ (assemble placed p config).toFileSet.entries) :
    e.2.overwrite = .ifMissing ↔ e.1 = developerConfigPath := by
  have halways (hmode : e.2.overwrite = .always) (hne : e.1 ≠ developerConfigPath) :
      e.2.overwrite = .ifMissing ↔ e.1 = developerConfigPath := by
    simp [hmode, hne]
  have htop : developerConfigPath ∈ topPaths := by decide
  have hcomponents : (assemble placed p config).components.entries = [] := rfl
  have hmem := h.mem_registered_of_mem_entries he
  rw [registered, hcomponents, List.flatMap_nil, List.append_nil, List.mem_append,
    List.mem_append] at hmem
  rcases hmem with (hmem | hmem) | hmem
  · obtain ⟨c, -, hc⟩ := List.mem_flatMap.1 hmem
    rw [configFiles] at hc
    split at hc
    · cases hc
    · obtain rfl := List.mem_singleton.1 hc
      dsimp only
      split <;> simp_all
  · refine halways ?_ fun heq => ?_
    · obtain ⟨page, -, hp⟩ := List.mem_flatMap.1 hmem
      obtain ⟨t, -, rfl⟩ := List.mem_map.1 hp
      rfl
    · have hpath := List.mem_map_of_mem (f := Prod.fst) hmem
      rw [Sources.paths_pages, h.pageTexts_pages] at hpath
      obtain ⟨b, hb, file, hfile, -, hbelow⟩ := path_of_mem_texts hpath
      exact pagePath_not_mem_topPaths (h.isSegment hb) hfile (hbelow ▸ heq ▸ htop)
  · obtain ⟨sheet, hsheet, hs⟩ := List.mem_flatMap.1 hmem
    obtain rfl := List.mem_singleton.1 hs
    refine halways rfl fun heq => ?_
    rcases h.path_of_mem_styles (List.mem_map_of_mem hsheet) with ⟨b, hb, hbelow⟩ | happ
    · exact pagePath_not_mem_topPaths (h.isSegment hb) (by decide) (hbelow ▸ heq ▸ htop)
    · exact absurd (heq.symm.trans happ) (by decide)

end Placing
end Generation

namespace Command

open FileMap (place keeps put pathsWhere pathsWhere_congr keeps_foldl_put foldl_put_foldl_put
  foldl_put_of_mem foldl_put_of_not_mem)
open Generation (Placing assemble generateProject generateProject_eq_ok_iff)

/-- Writing a project is writing its files one after the other. -/
theorem writeProject_eq {m : Type → Type} [Monad m] (fs : FileSystem m) (code : Project.Sources)
    (output : String) :
    writeProject fs code output false =
      fs.writeFrom output default code.toFileSet.entries >>= fun written =>
        pure (written.map .written) :=
  rfl

/-- **Writing a project** below a base writes what is not kept and skips the rest. -/
theorem run_writeProject {code : Project.Sources}
    (hsafe : ∀ e ∈ code.toFileSet.entries, IsSafe e.1)
    (hplaces : (code.toFileSet.entries.map place).Nodup) (output : String) (files : FileMap) :
    (writeProject (FileMap.fileSystem output) code output false).run files =
      (some (.written
        ⟨pathsWhere code.toFileSet.entries fun e => !files.keeps e,
          pathsWhere code.toFileSet.entries files.keeps⟩),
        code.toFileSet.entries.foldl put files) := by
  rw [writeProject_eq, StateT.run_bind, FileMap.run_writeFrom hsafe hplaces]
  rfl

variable {r : Registry} {p : Platform} {pages : List Page} {config : Project.Config}
  {placed : List Generation.Placed} {code : Project.Sources}

/-- The files of a generated project are safe. -/
theorem isSafe_entries (h : Placing r p pages placed) {e : String × File}
    (he : e ∈ (assemble placed p config).toFileSet.entries) : IsSafe e.1 :=
  (h.writable config).safe e.1 (List.mem_map.2 ⟨_, List.mem_map_of_mem he, rfl⟩)

/-- No two files of a project have the same path. -/
theorem nodup_paths_entries (code : Project.Sources) :
    (code.toFileSet.entries.map Prod.fst).Nodup := by
  have hnodup := code.toFileSet.nodup_paths
  rw [FileSet.contents, List.map_map] at hnodup
  exact hnodup

/-- No two files of a project have the same place. -/
theorem nodup_places_entries (code : Project.Sources) :
    (code.toFileSet.entries.map place).Nodup := by
  have hplaces := (nodup_paths_entries code).map Path.segments_injective
  rwa [List.map_map] at hplaces

/-- **A project is written over what is there.** Below any directory, whatever is there, each file
of a generated project is reported once, in order: as skipped if it is the file that is written
only once, the developer tools' settings, and was there, and as written otherwise. Nothing but the
places of the files changes; there, each file that is always written has its content, and
the one that is written only once has it unless it was there. A second run skips that file
and changes nothing; a dry run shows the same files in the same order and changes nothing. -/
theorem writeProject_generated (h : generateProject r pages p config = .ok code) (output : String)
    (files : FileMap) :
    let write := writeProject (FileMap.fileSystem output) code output
    let entries := code.toFileSet.entries
    (entries.map Prod.fst).Nodup ∧
    (∀ e ∈ entries, e.2.overwrite = .ifMissing ↔ e.1 = developerConfigPath) ∧
    (∃ after : FileMap,
      (write false).run files =
        (some (.written
          ⟨pathsWhere entries fun e => !(e.2.overwrite = .ifMissing && (files (place e)).isSome),
            pathsWhere entries fun e => e.2.overwrite = .ifMissing && (files (place e)).isSome⟩),
          after) ∧
      (∀ names, names ∉ entries.map place → after names = files names) ∧
      (∀ e ∈ entries, e.2.overwrite = .always → after (place e) = some (.text e.2.content)) ∧
      (∀ e ∈ entries, e.2.overwrite = .ifMissing →
        after (place e) = (files (place e)).or (some (.text e.2.content))) ∧
      (write false).run after =
        (some (.written
          ⟨pathsWhere entries fun e => e.2.overwrite = .always,
            pathsWhere entries fun e => e.2.overwrite = .ifMissing⟩),
          after)) ∧
    (write true).run files = (some (.shown (entries.map fun e => (e.1, e.2.content))), files) := by
  intro write entries
  obtain ⟨placed, hplacing, rfl⟩ := generateProject_eq_ok_iff.1 h
  have hsafe : ∀ e ∈ entries, IsSafe e.1 := fun e he => isSafe_entries hplacing he
  have hplaces : (entries.map place).Nodup := nodup_places_entries _
  refine ⟨nodup_paths_entries _, fun e he => hplacing.overwrite_eq_ifMissing_iff he,
    ⟨entries.foldl put files, run_writeProject hsafe hplaces output files,
      fun names hnames => foldl_put_of_not_mem hnames files, fun e he hmode => ?_,
      fun e he hmode => ?_, ?_⟩, rfl⟩
  · have hkeeps : files.keeps e = false := by
      rw [keeps, hmode]
      rfl
    rw [foldl_put_of_mem hplaces he, hkeeps, if_neg Bool.false_ne_true]
  · have hkeeps : files.keeps e = (files (place e)).isSome := by
      rw [keeps, hmode]
      rfl
    rw [foldl_put_of_mem hplaces he, hkeeps]
    cases files (place e) with
    | none => rfl
    | some content => rfl
  · have hskipped : pathsWhere entries (entries.foldl put files).keeps =
        pathsWhere entries fun e => e.2.overwrite = .ifMissing :=
      pathsWhere_congr fun e he => keeps_foldl_put hplaces he files
    have hwritten : (pathsWhere entries fun e => !(entries.foldl put files).keeps e) =
        pathsWhere entries fun e => e.2.overwrite = .always := by
      refine pathsWhere_congr fun e he => ?_
      rw [keeps_foldl_put hplaces he]
      cases e.2.overwrite <;> rfl
    have hrun := run_writeProject hsafe hplaces output (entries.foldl put files)
    rwa [hskipped, hwritten, foldl_put_foldl_put hplaces] at hrun

/-- A directory with settings of the developer tools that were edited by hand. -/
def editedSettings : FileMap := fun names =>
  if names = [developerConfigPath] then some (.text "edited") else none

/-- A site for WeChat with one page. -/
def generatedSite : Except Generation.Failure Project.Sources :=
  generateProject .standard [⟨"Home", none, some (.leaf "root" "Container")⟩] .weapp
    (.new "site" .weapp)

/-- The hypothesis of `writeProject_generated` is satisfiable: a site is generated into a directory
with edited settings, which are kept, and everything else is written. -/
theorem generatedSite_written :
    ∃ code after, generatedSite = .ok code ∧
      (writeProject (FileMap.fileSystem "dist") code "dist" false).run editedSettings =
        (some (.written
          ⟨["package.json", "tsconfig.json", "app.config.ts", "app.tsx", "pages/home/index.tsx"],
            ["project.config.json"]⟩),
          after) ∧
      after ["project.config.json"] = some (.text "edited") := by
  let kept (e : String × File) : Bool :=
    e.2.overwrite = .ifMissing && (editedSettings (place e)).isSome
  have hpaths : (generatedSite.toOption.map fun code =>
      (pathsWhere code.toFileSet.entries fun e => !kept e,
        pathsWhere code.toFileSet.entries kept)) =
      some (["package.json", "tsconfig.json", "app.config.ts", "app.tsx", "pages/home/index.tsx"],
        ["project.config.json"]) := by
    decide +kernel
  cases hcode : generatedSite with
  | error f => rw [hcode] at hpaths; cases hpaths
  | ok code =>
    rw [hcode] at hpaths
    obtain ⟨hwritten, hskipped⟩ := Prod.mk.inj (Option.some.inj hpaths)
    obtain ⟨-, -, ⟨after, hrun, -, -, hkept, -⟩, -⟩ :=
      writeProject_generated hcode "dist" editedSettings
    refine ⟨code, after, rfl, ?_, ?_⟩
    · rw [hrun]
      exact congrArg₂ (fun written skipped => (some (Report.Result.written ⟨written, skipped⟩),
        after)) hwritten hskipped
    · have hmem : "project.config.json" ∈ pathsWhere code.toFileSet.entries kept := by
        rw [hskipped]
        exact .head _
      obtain ⟨e, he, hpath⟩ := List.mem_map.1 hmem
      obtain ⟨hentry, hmode⟩ := List.mem_filter.1 he
      have hplace : place e = ["project.config.json"] := by
        rw [place, hpath]
        decide
      have hafter := hkept e hentry (by simpa [kept] using (Bool.and_eq_true_iff.1 hmode).1)
      rw [hplace] at hafter
      exact hafter

/-- **On a disk,** if everything succeeds, writing a project comes to writing it on the map of what
is below the directory. -/
theorem run_writeProject_below (h : generateProject r pages p config = .ok code) {output : String}
    {d after : Disk} {result : Report.Result} (hd : d.Rooted) (hup : ".." ∉ Path.names output)
    (hrun : (writeProject Disk.fileSystem code output false).run d = (some result, after))
    (hfree : after.isDirectory (d.home output ++ [developerConfigPath]) = false) :
    (writeProject (FileMap.fileSystem output) code output false).run (d.below (d.home output)) =
      (some result, after.below (d.home output)) := by
  obtain ⟨placed, hplacing, rfl⟩ := generateProject_eq_ok_iff.1 h
  have hplace {e : String × File} (he : e ∈ (assemble placed p config).toFileSet.entries)
      (hmode : e.2.overwrite = .ifMissing) : place e = [developerConfigPath] := by
    have hsegments : Path.segments developerConfigPath = [developerConfigPath] := by decide
    rw [place, (hplacing.overwrite_eq_ifMissing_iff he).1 hmode, hsegments]
  rcases hwritten : (Disk.fileSystem.writeFrom output default
      (assemble placed p config).toFileSet.entries).run d with ⟨_ | w, between⟩
  · rw [writeProject_eq, StateT.run_bind, hwritten] at hrun
    cases hrun
  · rw [writeProject_eq, StateT.run_bind, hwritten] at hrun
    obtain ⟨hresult, rfl⟩ := Prod.mk.inj hrun
    obtain ⟨hmap, -⟩ := Disk.run_writeFrom_below hd hup (fun e he => isSafe_entries hplacing he)
      hwritten fun e he hmode => by rw [hplace he hmode, hfree]
    rw [writeProject_eq, StateT.run_bind, hmap, ← hresult]
    rfl

end Command
end Pagewright
