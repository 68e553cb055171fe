/-
# The manifest of a new workspace

A new workspace is made by two writes (`run_runInit`), of its manifest and of its sample page, and
each adds at most one file (`adds_runInit`). So a manifest that is there afterwards, and was not
before, is the one that is written for the name of the project: the name that is given, or the one
of the working directory. There is such a manifest wherever the command succeeds and the path was
free (`exists_manifest_of_runInit`), whatever the name is; it is read back exactly if the name is a
package name (`runInit_reads_iff`).
-/

import Pagewright.Command.Run
import Pagewright.Proofs.Disk.Written
import Pagewright.Proofs.Manifest.Scaffolded

namespace Pagewright
namespace Command

open Scaffold (Reads manifestPath)

/-- The name of the project of a new workspace. -/
def projectName (directory name : String) : String :=
  if name = Path.here then directory else name

/-- The file name of the sample page. -/
def pageName : String := "home.json"

/-- The manifest stands under its own name. -/
theorem getLast?_manifestPath (base : String) :
    (Path.segments (Path.below base manifestPath)).getLast? = some manifestPath := by
  have hsegments : (Path.segments manifestPath).filter (fun s => !s.isEmpty) = [manifestPath] := by
    decide +kernel
  rw [Path.below, hsegments]
  exact Path.getLast?_segments_join (by decide) base

/-- The sample page stands under its own name. -/
theorem getLast?_pagePath (base : String) :
    (Path.segments (Path.below base Scaffold.pagePath)).getLast? = some pageName := by
  have hsegments : (Path.segments Scaffold.pagePath).filter (fun s => !s.isEmpty) =
      ["pages", pageName] := by
    decide +kernel
  rw [Path.below, hsegments]
  exact Path.getLast?_segments_join (by decide) (Path.join base "pages")

variable {d : Disk} {directory name : String} {output : Option String} {p : Platform}

/-- **A new workspace is made by two writes:** the sample page is written onto the disk that the
manifest was written on, unless the manifest could not be written. -/
theorem run_runInit (d : Disk) (directory name : String) (output : Option String) (p : Platform) :
    let first := (Disk.fileSystem.writeFile (output.getD name) manifestPath
      (Scaffold.manifest (projectName directory name) p) .ifMissing).run d
    let second := (Disk.fileSystem.writeFile (output.getD name) Scaffold.pagePath Scaffold.page
      .ifMissing).run first.2
    (runInit Disk.fileSystem directory name output (some p)).run d =
      if first.1 = none then (.failed (.write (output.getD name)), first.2)
      else if second.1 = none then (.failed (.write (output.getD name)), second.2)
      else (.printed (createdText p (output.getD name)), second.2) := by
  intro first second
  have hfirst : (Disk.fileSystem.writeFile (output.getD name) manifestPath
      (Scaffold.manifest (if name = Path.here then directory else name) p) .ifMissing).run d =
    (first.1, first.2) := Prod.mk.eta.symm
  have hsecond : (Disk.fileSystem.writeFile (output.getD name) Scaffold.pagePath Scaffold.page
      .ifMissing).run first.2 = (second.1, second.2) := Prod.mk.eta.symm
  rw [runInit, StateT.run_bind, hfirst]
  cases first.1 with
  | none => rfl
  | some outcome =>
    change StateT.run (Disk.fileSystem.writeFile (output.getD name) Scaffold.pagePath Scaffold.page
      .ifMissing >>= _) first.2 = _
    rw [StateT.run_bind, hsecond]
    cases second.1 with
    | none => rfl
    | some outcome => rfl

/-- **What a new workspace adds to a disk:** its manifest, and then its sample page. -/
theorem adds_runInit (d : Disk) (directory name : String) (output : Option String) (p : Platform) :
    ∃ between,
      d.Adds between manifestPath (Scaffold.manifest (projectName directory name) p) ∧
      between.Adds ((runInit Disk.fileSystem directory name output (some p)).run d).2 pageName
        Scaffold.page := by
  have hmanifest := Disk.adds_writeFile (getLast?_manifestPath (output.getD name)) d
    (Scaffold.manifest (projectName directory name) p)
  refine ⟨_, hmanifest, ?_⟩
  have hpage := Disk.adds_writeFile (getLast?_pagePath (output.getD name))
    ((Disk.fileSystem.writeFile (output.getD name) manifestPath
      (Scaffold.manifest (projectName directory name) p) .ifMissing).run d).2 Scaffold.page
  rw [run_runInit]
  split
  · exact .inl rfl
  · split
    · exact hpage
    · exact hpage

/-- **A manifest is written** where the command succeeds and the path of the manifest was free. -/
theorem exists_manifest_of_runInit
    (hfree : d.isTaken (Path.below (output.getD name) manifestPath) = false)
    (hcode : ((runInit Disk.fileSystem directory name output (some p)).run d).1.code = 0) :
    ∃ dir, ((runInit Disk.fileSystem directory name output (some p)).run d).2.files.get?
        (dir ++ [manifestPath]) =
      some (.text (Scaffold.manifest (projectName directory name) p)) := by
  have hpage := Disk.adds_writeFile (getLast?_pagePath (output.getD name))
    (d.write (Path.below (output.getD name) manifestPath)
      (.text (Scaffold.manifest (projectName directory name) p))).1 Scaffold.page
  rw [run_runInit] at hcode ⊢
  simp only [Disk.run_writeFile d, hfree, Bool.false_eq_true, if_false] at hcode ⊢
  rcases d.write_cases (Path.below (output.getD name) manifestPath)
    (.text (Scaffold.manifest (projectName directory name) p)) with
    ⟨hfailed, -⟩ | ⟨dir, found, hfound, hdone, hfiles⟩
  · simp only [hfailed] at hcode
    cases hcode
  · obtain rfl := Option.some.inj ((getLast?_manifestPath (output.getD name)).symm.trans hfound)
    have hwritten := hpage.get?_of_ne (show manifestPath ≠ pageName by decide) dir
    rw [hfiles, Dict.get?_insert_self] at hwritten
    refine ⟨dir, ?_⟩
    simp only [hdone, if_true, reduceCtorEq, if_false]
    split
    · exact hwritten
    · exact hwritten

/-- **The manifest of a new workspace is read back** with the name of the project, the platform,
the sample page and the style map for pages, exactly if the name is a package name. This is so of
every manifest that the command writes into a directory that has none. -/
theorem runInit_reads_iff {dir : List String} {text : String}
    (hnew : d.isFile (dir ++ [manifestPath]) = false)
    (hwritten : ((runInit Disk.fileSystem directory name output (some p)).run d).2.files.get?
      (dir ++ [manifestPath]) = some (.text text)) :
    Reads text (projectName directory name) p ↔
      Manifest.packageFault? (projectName directory name) = none := by
  obtain ⟨between, hmanifest, hpage⟩ := adds_runInit d directory name output p
  rw [hpage.get?_of_ne (by decide)] at hwritten
  rw [hmanifest.text_eq hnew hwritten]
  exact Scaffold.reads_manifest_iff

/-- The hypotheses are satisfiable: on an empty disk, the project `shop` for WeChat gets a manifest
below the directory that is named like it. -/
theorem shop_reads :
    Reads (Scaffold.manifest "shop" .weapp) (projectName "work" "shop") .weapp := by
  have hnew : (Disk.empty "work").isFile (["work", "shop"] ++ [manifestPath]) = false := by decide
  have hwritten : ((runInit Disk.fileSystem "work" "shop" none (some .weapp)).run
      (Disk.empty "work")).2.files.get? (["work", "shop"] ++ [manifestPath]) =
        some (.text (Scaffold.manifest "shop" .weapp)) := by
    decide +kernel
  exact (runInit_reads_iff hnew hwritten).2 (by decide)

/-- **The name is not looked at:** a workspace is made for the project `My Shop`, and its manifest
is not read back. -/
theorem capitals_not_read :
    let finish := (runInit Disk.fileSystem "work" "My Shop" none (some .weapp)).run
      (Disk.empty "work")
    finish.1.code = 0 ∧ (Disk.empty "work").isFile ["work", "My Shop", manifestPath] = false ∧
      ∃ text, finish.2.files.get? ["work", "My Shop", manifestPath] = some (.text text) ∧
        ¬Reads text "My Shop" .weapp := by
  have hname : Manifest.packageFault? "My Shop" ≠ none := by decide
  refine ⟨by decide +kernel, by decide, Scaffold.manifest "My Shop" .weapp, by decide +kernel, ?_⟩
  exact mt Scaffold.reads_manifest_iff.1 hname

end Command
end Pagewright
