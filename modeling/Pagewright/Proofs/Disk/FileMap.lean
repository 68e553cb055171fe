/-
# Files below a directory as a map

The files below a directory are a map from the names that lead to them from there (`FileMap`).
Files of safe paths have places on it that do not depend on the directory. A write changes the map
at one place or keeps what is there, and says which (`run_writeFile`). So writing a list of files
reports each of them once, in order, as written or as kept by what was there at the start
(`run_writeFrom`), leaves everything else as it is (`foldl_put_of_not_mem`), and puts each file that
is not kept at its place (`foldl_put_of_mem`). Writing the list again changes nothing
(`foldl_put_foldl_put`).
-/

import Pagewright.Disk.Write
import Pagewright.Proofs.Disk.Places

namespace Pagewright

open Project (File FileSet IsSafe)

namespace FileSystem

variable {m : Type → Type} [Monad m]

/-- A file that is always written is written without a look at what is there. -/
theorem writeFile_always [LawfulMonad m] (fs : FileSystem m) (base path text : String) :
    fs.writeFile base path text .always =
      fs.write (Path.below base path) (.text text) >>= fun done =>
        pure (if done then some .written else none) := by
  simp [writeFile]

/-- A file that is written if it is missing is skipped if its place is taken. -/
theorem writeFile_ifMissing [LawfulMonad m] (fs : FileSystem m) (base path text : String) :
    fs.writeFile base path text .ifMissing =
      fs.isTaken (Path.below base path) >>= fun keep =>
        if keep then pure (some .skipped) else fs.writeFile base path text .always := by
  simp [writeFile]

/-- Files are written one after the other, until one fails. -/
theorem writeFrom_cons (fs : FileSystem m) (base : String) (w : Written) (e : String × File)
    (l : List (String × File)) :
    fs.writeFrom base w (e :: l) =
      fs.writeFile base e.1 e.2.content e.2.overwrite >>= fun done =>
        match done with
        | some outcome => fs.writeFrom base (w.record e.1 outcome) l
        | none => pure none :=
  rfl

end FileSystem

/-- The files below a directory, by the names that lead to them from there. -/
def FileMap : Type := List String → Option Content

namespace FileMap

/-- The files with one more, in place of what is there. -/
def set (files : FileMap) (names : List String) (content : Content) : FileMap :=
  fun other => if other = names then some content else files other

section Set

variable {files : FileMap} {names other : List String} {content : Content}

/-- A file that is written is there. -/
theorem set_self (files : FileMap) (names : List String) (content : Content) :
    files.set names content names = some content :=
  if_pos rfl

theorem set_of_ne (h : other ≠ names) : files.set names content other = files other := if_neg h

/-- Writing what is there changes nothing. -/
theorem set_eq_self (h : files names = some content) : files.set names content = files := by
  funext other
  by_cases hother : other = names
  · rw [hother, set_self, h]
  · exact set_of_ne hother

end Set

/-- The files below a base as a file system in which every operation below the base succeeds, and
none elsewhere. -/
def fileSystem (base : String) : FileSystem (StateM FileMap) where
  read? path := do
    let files : FileMap ← get
    match (Path.fromBase? base path).bind files with
    | some (.text s) => return some s
    | _ => return none
  isTaken path := do
    let files : FileMap ← get
    return ((Path.fromBase? base path).bind files).isSome
  makeDirectory path := return (Path.fromBase? base path).isSome
  write path content := modifyGet fun files =>
    match Path.fromBase? base path with
    | some names => (true, files.set names content)
    | none => (false, files)

/-- The names that lead to a file. -/
def place (e : String × File) : List String := Path.segments e.1

/-- Whether a file is kept: it is written unless it is there, and it is there. -/
def keeps (files : FileMap) (e : String × File) : Bool :=
  e.2.overwrite = .ifMissing && (files (place e)).isSome

/-- The files after one was written or kept. -/
def put (files : FileMap) (e : String × File) : FileMap :=
  if files.keeps e then files else files.set (place e) (.text e.2.content)

variable {files : FileMap} {e : String × File} {l : List (String × File)}

theorem put_of_keeps (h : files.keeps e = true) : files.put e = files := if_pos h

/-- A file that is not kept is written. -/
theorem put_of_not_keeps (h : files.keeps e = false) :
    files.put e = files.set (place e) (.text e.2.content) :=
  if_neg (by rw [h]; exact Bool.false_ne_true)

section Write

variable (h : IsSafe e.1) (base : String) (files : FileMap)

include h

/-- A place is taken if there is a file. -/
theorem run_isTaken : ((fileSystem base).isTaken (Path.below base e.1)).run files =
    ((files (place e)).isSome, files) := by
  change (((Path.fromBase? base _).bind files).isSome, files) = _
  rw [Path.fromBase?_below h]
  rfl

/-- Writing below the base succeeds and sets the file. -/
theorem run_write (content : Content) :
    ((fileSystem base).write (Path.below base e.1) content).run files =
      (true, files.set (place e) content) := by
  change (match Path.fromBase? base _ with | some names => _ | none => _) = _
  rw [Path.fromBase?_below h]
  rfl

/-- **A file** is kept or written, and is said to be. -/
theorem run_writeFile :
    ((fileSystem base).writeFile base e.1 e.2.content e.2.overwrite).run files =
      (some (if files.keeps e then .skipped else .written), files.put e) := by
  have hwrite : ((fileSystem base).writeFile base e.1 e.2.content .always).run files =
      (some .written, files.set (place e) (.text e.2.content)) := by
    rw [FileSystem.writeFile_always, StateT.run_bind, run_write h]
    rfl
  rw [put, keeps]
  cases e.2.overwrite with
  | always => exact hwrite
  | ifMissing =>
    rw [FileSystem.writeFile_ifMissing, StateT.run_bind, run_isTaken h]
    cases (files (place e)).isSome with
    | true => rfl
    | false => exact hwrite

end Write

/-! ## A list of files -/

/-- **A write leaves other places as they are.** -/
theorem put_of_ne {names : List String} (h : names ≠ place e) (files : FileMap) :
    files.put e names = files names := by
  cases hkept : files.keeps e with
  | true => rw [put_of_keeps hkept]
  | false =>
    rw [put_of_not_keeps hkept]
    exact set_of_ne h

/-- Where a file belongs there is afterwards what was kept or what is written. -/
theorem put_place (files : FileMap) (e : String × File) :
    files.put e (place e) =
      if files.keeps e then files (place e) else some (.text e.2.content) := by
  cases hkept : files.keeps e with
  | true =>
    rw [put_of_keeps hkept]
    rfl
  | false =>
    rw [put_of_not_keeps hkept]
    exact set_self _ _ _

/-- Whether a file is kept depends on its own place only. -/
theorem keeps_put_of_ne {other : String × File} (h : place other ≠ place e) (files : FileMap) :
    (files.put e).keeps other = files.keeps other := by
  rw [keeps, put_of_ne h, keeps]

/-- The paths of the files that satisfy a test, in the order of the list. -/
def pathsWhere (l : List (String × File)) (test : String × File → Bool) : List String :=
  (l.filter test).map Prod.fst

/-- The paths depend on what the test says of the files themselves only. -/
theorem pathsWhere_congr {test test' : String × File → Bool} (h : ∀ e ∈ l, test e = test' e) :
    pathsWhere l test = pathsWhere l test' :=
  congrArg (List.map Prod.fst) (List.filter_congr h)

/-- **A list of files** is reported in order, each file once, by whether it was kept at the start:
the places are distinct, so no write decides on a later file. -/
theorem run_writeFrom (hsafe : ∀ e ∈ l, IsSafe e.1) (hplaces : (l.map place).Nodup) (base : String)
    (w : Written) (files : FileMap) :
    ((fileSystem base).writeFrom base w l).run files =
      (some ⟨w.written ++ pathsWhere l fun e => !files.keeps e,
        w.skipped ++ pathsWhere l files.keeps⟩, l.foldl put files) := by
  induction l generalizing w files with
  | nil =>
    simp only [pathsWhere, List.filter_nil, List.map_nil, List.append_nil]
    rfl
  | cons e l ih =>
    obtain ⟨hfirst, hrest⟩ := List.forall_mem_cons.1 hsafe
    rw [List.map_cons, List.nodup_cons] at hplaces
    have hkeeps : ∀ other ∈ l, (files.put e).keeps other = files.keeps other := fun other hmem =>
      keeps_put_of_ne (fun heq => hplaces.1 (List.mem_map.2 ⟨other, hmem, heq⟩)) files
    have hstep : ((fileSystem base).writeFrom base w (e :: l)).run files =
        ((fileSystem base).writeFrom base
          (w.record e.1 (if files.keeps e then .skipped else .written)) l).run (files.put e) := by
      rw [FileSystem.writeFrom_cons, StateT.run_bind, run_writeFile hfirst]
      rfl
    have hwritten : ∀ other ∈ l, (!(files.put e).keeps other) = !files.keeps other :=
      fun other hmem => by rw [hkeeps other hmem]
    rw [hstep, ih hrest hplaces.2, List.foldl_cons, pathsWhere_congr hkeeps,
      pathsWhere_congr hwritten]
    cases hkept : files.keeps e <;> simp [Written.record, pathsWhere, hkept]

/-- **Everything else** stays as it is. -/
theorem foldl_put_of_not_mem {names : List String} (h : names ∉ l.map place) (files : FileMap) :
    l.foldl put files names = files names := by
  induction l generalizing files with
  | nil => rfl
  | cons e l ih =>
    rw [List.map_cons, List.mem_cons, not_or] at h
    rw [List.foldl_cons, ih h.2, put_of_ne h.1]

/-- **Each file** is at its place, unless what was there is kept. -/
theorem foldl_put_of_mem (hplaces : (l.map place).Nodup) (he : e ∈ l) (files : FileMap) :
    l.foldl put files (place e) =
      if files.keeps e then files (place e) else some (.text e.2.content) := by
  induction l generalizing files with
  | nil => cases he
  | cons first l ih =>
    rw [List.map_cons, List.nodup_cons] at hplaces
    rw [List.foldl_cons]
    rcases List.mem_cons.1 he with rfl | he
    · rw [foldl_put_of_not_mem hplaces.1, put_place]
    · have hne : place e ≠ place first := fun heq =>
        hplaces.1 (List.mem_map.2 ⟨e, he, heq⟩)
      rw [ih hplaces.2 he, keeps_put_of_ne hne, put_of_ne hne]

/-! ## Writing the list again -/

/-- After all are written, each file is there. -/
theorem isSome_foldl_put (hplaces : (l.map place).Nodup) (he : e ∈ l) (files : FileMap) :
    (l.foldl put files (place e)).isSome := by
  rw [foldl_put_of_mem hplaces he]
  split
  · next hkept => exact (Bool.and_eq_true_iff.1 hkept).2
  · rfl

/-- **All files are there** after a run, so those that are written only once are kept. -/
theorem keeps_foldl_put (hplaces : (l.map place).Nodup) (he : e ∈ l) (files : FileMap) :
    (l.foldl put files).keeps e = decide (e.2.overwrite = .ifMissing) := by
  rw [keeps, isSome_foldl_put hplaces he, Bool.and_true]

/-- After all are written, writing one of them again changes nothing. -/
theorem put_foldl_put (hplaces : (l.map place).Nodup) (he : e ∈ l) (files : FileMap) :
    (l.foldl put files).put e = l.foldl put files := by
  cases hkept : (l.foldl put files).keeps e with
  | true => exact put_of_keeps hkept
  | false =>
    have hwritten : files.keeps e = false := by
      rw [keeps_foldl_put hplaces he] at hkept
      rw [keeps, hkept, Bool.false_and]
    have hplace := foldl_put_of_mem hplaces he files
    rw [hwritten, if_neg Bool.false_ne_true] at hplace
    rw [put_of_not_keeps hkept]
    exact set_eq_self hplace

/-- **A second run changes nothing.** -/
theorem foldl_put_foldl_put (hplaces : (l.map place).Nodup) (files : FileMap) :
    l.foldl put (l.foldl put files) = l.foldl put files := by
  have hstays : ∀ l' ⊆ l, l'.foldl put (l.foldl put files) = l.foldl put files := by
    intro l' hsub
    induction l' with
    | nil => rfl
    | cons e l' ih =>
      rw [List.foldl_cons, put_foldl_put hplaces (hsub (.head _))]
      exact ih fun _ hmem => hsub (.tail _ hmem)
  exact hstays l (List.Subset.refl l)

end FileMap
end Pagewright
