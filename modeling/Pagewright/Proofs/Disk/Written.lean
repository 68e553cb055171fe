/-
# What writing adds to a disk

Making directories changes no file, so a write that succeeds adds one file, whose name is the last
segment of the path, and one that fails adds none (`write_cases`). The path of a file below a base
ends with the name of the file, whatever the base is (`getLast?_segments_join`). So a file that is
written below a base unless it is there leaves all other files as they are (`adds_writeFile`).
-/

import Pagewright.Disk.Write

namespace Pagewright

namespace Path

/-- **A path that leads to a name** ends with it. -/
theorem getLast?_segments_join {name : String} (hname : '/' ∉ name.toList) (base : String) :
    (segments (join base name)).getLast? = some name := by
  have hlast {path : String} {before : List Char}
      (h : path.toList = before ++ '/' :: name.toList) :
      (segments path).getLast? = some name := by
    rw [segments, h, Text.splitWhere_append rfl, Text.splitWhere_of_not_mem hname]
    simp
  have habsolute : isAbsolute name = false := by
    rw [isAbsolute, beq_eq_false_iff_ne]
    exact fun h => hname (List.mem_of_mem_head? h)
  unfold join
  rw [habsolute, Bool.false_or]
  split
  · rw [segments, Text.splitWhere_of_not_mem hname]
    simp
  · split
    · next h =>
      obtain ⟨before, hbefore⟩ := List.getLast?_eq_some_iff.1 (beq_iff_eq.1 h)
      exact hlast (by rw [String.toList_append, hbefore, List.append_assoc]; rfl)
    · exact hlast (by rw [String.toList_append, String.toList_append, List.append_assoc]; rfl)

end Path

namespace Disk

variable {d : Disk} {path name text : String} {content : Content}

/-- Making directories on the way leaves the files. -/
theorem files_makeWay (d : Disk) (location segments : List String) :
    (d.makeWay location segments).1.files = d.files := by
  induction segments generalizing d location with
  | nil => rfl
  | cons segment rest ih =>
    rw [makeWay]
    split
    · exact ih d location
    · split
      · split
        · rfl
        · exact ih d _
      · split
        · exact ih d _
        · split
          · rfl
          · exact ih _ _

/-- Making a directory leaves the files. -/
theorem files_makeDirectory (d : Disk) (path : String) :
    (d.makeDirectory path).1.files = d.files := by
  unfold makeDirectory
  dsimp only
  split
  · rfl
  · split
    · rfl
    · split
      · exact files_makeWay ..
      · exact files_makeWay ..

/-- **Writing** adds the file that the path names, or fails and changes no file. -/
theorem write_cases (d : Disk) (path : String) (content : Content) :
    ((d.write path content).2 = false ∧ (d.write path content).1.files = d.files) ∨
      ∃ directory name, (Path.segments path).getLast? = some name ∧
        (d.write path content).2 = true ∧
        (d.write path content).1.files = d.files.insert (directory ++ [name]) content := by
  unfold write
  split
  · exact .inl ⟨rfl, rfl⟩
  · have hfiles := files_makeDirectory d ((Path.parent? path).getD "")
    rcases hmade : d.makeDirectory ((Path.parent? path).getD "") with ⟨after, reached⟩
    rw [hmade] at hfiles
    dsimp only at hfiles ⊢
    split
    · next directory name hname =>
      split
      · unfold writeIn
        dsimp only
        split
        · exact .inl ⟨rfl, hfiles⟩
        · refine .inr ⟨directory, name, hname, rfl, ?_⟩
          rw [← hfiles]
      · exact .inl ⟨rfl, hfiles⟩
    · exact .inl ⟨rfl, hfiles⟩

/-- The files of a disk after a text is written under a name, in some directory, if at all. -/
def Adds (d after : Disk) (name text : String) : Prop :=
  after.files = d.files ∨
    ∃ directory, after.files = d.files.insert (directory ++ [name]) (.text text)

/-- **Files of another name** stay as they are. -/
theorem Adds.get?_of_ne {d after : Disk} (h : Adds d after name text) {other : String}
    (hne : other ≠ name) (directory : List String) :
    after.files.get? (directory ++ [other]) = d.files.get? (directory ++ [other]) := by
  rcases h with h | ⟨place, h⟩
  · rw [h]
  · have hplace : directory ++ [other] ≠ place ++ [name] := fun heq =>
      hne (List.cons.inj (List.append_inj_right' heq rfl)).1
    rw [h, Dict.get?_insert, if_neg hplace]

/-- **A new file of the name** holds the text. -/
theorem Adds.text_eq {d after : Disk} (h : Adds d after name text) {directory : List String}
    (hnew : d.isFile (directory ++ [name]) = false) {found : String}
    (hfound : after.files.get? (directory ++ [name]) = some (.text found)) : found = text := by
  have hnone : d.files.get? (directory ++ [name]) = none := by
    simpa [isFile, Dict.contains] using hnew
  rcases h with h | ⟨place, h⟩
  · rw [h, hnone] at hfound
    cases hfound
  · rw [h, Dict.get?_insert] at hfound
    split at hfound
    · exact (Content.text.inj (Option.some.inj hfound)).symm
    · rw [hnone] at hfound
      cases hfound

variable {base : String}

/-- What a file that is written unless it is there comes to, and the disk after it. -/
theorem run_writeFile (d : Disk) (base path text : String) :
    (fileSystem.writeFile base path text .ifMissing).run d =
      if d.isTaken (Path.below base path) then (some .skipped, d)
      else
        (if (d.write (Path.below base path) (.text text)).2 then some .written else none,
          (d.write (Path.below base path) (.text text)).1) := by
  have htaken : (fileSystem.isTaken (Path.below base path)).run d =
      (d.isTaken (Path.below base path), d) := rfl
  have hwrite : (fileSystem.write (Path.below base path) (.text text)).run d =
      ((d.write (Path.below base path) (.text text)).2,
        (d.write (Path.below base path) (.text text)).1) := rfl
  rw [FileSystem.writeFile]
  simp only [StateT.run_bind, htaken]
  cases h : d.isTaken (Path.below base path) with
  | true => rfl
  | false =>
    change StateT.run (fileSystem.write (Path.below base path) (.text text) >>= fun done =>
      pure (if done then some Outcome.written else none)) d = _
    rw [StateT.run_bind, hwrite]
    rfl

/-- **A file that is written unless it is there** is at most one more file. -/
theorem adds_writeFile (hname : (Path.segments (Path.below base path)).getLast? = some name)
    (d : Disk) (text : String) :
    Adds d ((fileSystem.writeFile base path text .ifMissing).run d).2 name text := by
  rw [run_writeFile]
  split
  · exact .inl rfl
  · rcases d.write_cases (Path.below base path) (.text text) with
      ⟨-, h⟩ | ⟨directory, found, hfound, -, h⟩
    · exact .inl h
    · obtain rfl := Option.some.inj (hname.symm.trans hfound)
      exact .inr ⟨directory, h⟩

end Disk
end Pagewright
