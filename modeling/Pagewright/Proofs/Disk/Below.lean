/-
# A disk as a map

What a disk has below a directory is a map (`Disk.below`). Writing files below a base on a disk
comes to writing them on the map, file by file (`run_writeFile_below`), and so for a list of them
(`run_writeFrom_below`), if

- every write succeeds;
- everything on the disk is in a directory, so that what is there is found;
- the base does not lead up: behind a directory that is missing, a look-up would find nothing where
  a write finds what is there;
- no directory stands at the place of a file that is written only once, and is taken for it.
-/

import Pagewright.Proofs.Disk.FileMap
import Pagewright.Proofs.Disk.Locations

namespace Pagewright

open Project (File IsSafe)

namespace Path

variable {path : String}

/-- A safe path below a base is the name of the file, joined with the directory of the file. -/
theorem below_eq_join (h : IsSafe path) (base : String) :
    ∃ directory name, IsName name ∧ below base path = join directory name ∧
      names directory ++ [name] = names base ++ segments path := by
  have hname := isName_of_isSafe h
  obtain ⟨init, name, hlast⟩ := segments_eq_concat path
  have hjoin : below base path = join (init.foldl join base) name := by
    rw [below, filter_segments h, hlast, List.foldl_append]
    rfl
  rw [hlast, List.forall_mem_append] at hname
  refine ⟨init.foldl join base, name, hname.2 name (.head _), hjoin, ?_⟩
  have hinit : init.filter (· != here) = init :=
    List.filter_eq_self.2 fun s hs => (Bool.and_eq_true_iff.1 (hname.1 s hs).component).2
  rw [names, components_foldl_join hname.1, List.filter_append, hinit, hlast, List.append_assoc,
    names]

/-- A safe path does not lead up. -/
theorem up_not_mem_of_isSafe (h : IsSafe path) : ".." ∉ segments path := by
  intro hmem
  obtain ⟨piece, hpiece, heq⟩ := List.mem_map.1 hmem
  exact (h piece hpiece).2.2 (by rw [← String.toList_ofList (l := piece), heq]; rfl)

end Path

namespace Disk

open FileMap (place)

variable {d after : Disk} {base : String} {e : String × File} {outcome : Outcome}

/-- The files of a disk below a location. -/
def below (d : Disk) (location : List String) : FileMap :=
  fun names => d.files.get? (location ++ names)

/-- The location that a path leads to if it does not lead up. -/
def home (d : Disk) (path : String) : List String := d.here ++ Path.names path

/-- One more file on a disk is one more file below the location. -/
theorem below_insert {location names : List String} {content : Content}
    (h : after.files = d.files.insert (location ++ names) content) :
    after.below location = (d.below location).set names content := by
  funext other
  rw [below, h, Dict.get?_insert]
  by_cases hother : other = names
  · rw [if_pos (by rw [hother]), hother, FileMap.set_self]
  · rw [if_neg fun heq => hother (List.append_cancel_left heq), FileMap.set_of_ne hother, below]

/-! ## A path below a base -/

section Path

variable {path : String} (hd : d.Rooted) (hsafe : IsSafe path) (hup : ".." ∉ Path.names base)

include hsafe

/-- Below a base, a path adds its segments to the names. -/
theorem names_below (base : String) :
    Path.names (Path.below base path) = Path.names base ++ Path.segments path := by
  obtain ⟨directory, name, hname, hjoin, hnames⟩ := Path.below_eq_join hsafe base
  rw [hjoin, Path.names_join hname, hnames]

include hup

/-- A safe path below a base that does not lead up does not either. -/
theorem up_not_mem_below : ".." ∉ Path.names (Path.below base path) := by
  rw [names_below hsafe, List.mem_append, not_or]
  exact ⟨hup, Path.up_not_mem_of_isSafe hsafe⟩

/-- What is taken is there. -/
theorem isThere_below (htaken : d.isTaken (Path.below base path)) :
    d.isThere (d.home base ++ Path.segments path) := by
  have hthere := isThere_of_isTaken (up_not_mem_below hsafe hup) htaken
  rwa [names_below hsafe, ← List.append_assoc] at hthere

include hd

/-- What is there is taken. -/
theorem isTaken_below (hrelative : Path.isAbsolute (Path.below base path) = false)
    (hpath : isPath (Path.below base path))
    (hthere : d.isThere (d.home base ++ Path.segments path)) :
    d.isTaken (Path.below base path) := by
  have hpathUp := up_not_mem_below hsafe hup
  rw [home, List.append_assoc, ← names_below hsafe] at hthere
  obtain ⟨directory, name, hname, hjoin, -⟩ := Path.below_eq_join hsafe base
  rw [hjoin] at hrelative hpath hthere hpathUp ⊢
  exact isTaken_of_isThere hd hname hpathUp hrelative hpath hthere

/-- Writing below a base sets the file. -/
theorem files_write_below {content : Content}
    (hdone : (d.write (Path.below base path) content).2 = true) :
    (d.write (Path.below base path) content).1.files =
      d.files.insert (d.home base ++ Path.segments path) content := by
  have hpathUp := up_not_mem_below hsafe hup
  obtain ⟨directory, name, hname, hjoin, hnames⟩ := Path.below_eq_join hsafe base
  rw [hjoin, Path.names_join hname] at hpathUp
  rw [home, List.append_assoc, ← hnames, ← List.append_assoc]
  rw [hjoin] at hdone ⊢
  exact files_write_join hd hname (fun h => hpathUp (List.mem_append_left _ h)) hdone

end Path

/-! ## Files below a base -/

/-- Writing is an operation on the disk. -/
theorem run_write (d : Disk) (path : String) (content : Content) :
    (fileSystem.write path content).run d =
      ((d.write path content).2, (d.write path content).1) :=
  rfl

/-- Writing a file always is writing it to the disk. -/
theorem run_writeFile_always (d : Disk) (base path text : String) :
    (fileSystem.writeFile base path text .always).run d =
      (if (d.write (Path.below base path) (.text text)).2 then some .written else none,
        (d.write (Path.below base path) (.text text)).1) := by
  rw [FileSystem.writeFile_always, StateT.run_bind, run_write]
  rfl

/-- **A file was written or kept,** by what the disk says of its path. -/
theorem writeFile_cases
    (hrun : (fileSystem.writeFile base e.1 e.2.content e.2.overwrite).run d =
      (some outcome, after)) :
    (e.2.overwrite = .ifMissing ∧ d.isTaken (Path.below base e.1) ∧ outcome = .skipped ∧
        after = d) ∨
      ((e.2.overwrite = .ifMissing → d.isTaken (Path.below base e.1) = false) ∧
        outcome = .written ∧ (d.write (Path.below base e.1) (.text e.2.content)).2 = true ∧
        after = (d.write (Path.below base e.1) (.text e.2.content)).1) := by
  have hwritten {done : Bool} {made : Disk}
      (h : (if done then some Outcome.written else none, made) = (some outcome, after)) :
      outcome = .written ∧ done = true ∧ after = made := by
    cases done with
    | true => cases h; exact ⟨rfl, rfl, rfl⟩
    | false => cases h
  cases hmode : e.2.overwrite with
  | always =>
    rw [hmode, run_writeFile_always] at hrun
    exact .inr ⟨fun h => (nomatch h), hwritten hrun⟩
  | ifMissing =>
    rw [hmode, run_writeFile] at hrun
    split at hrun
    · next htaken =>
      cases hrun
      exact .inl ⟨rfl, htaken, rfl, rfl⟩
    · next hfree => exact .inr ⟨fun _ => by simpa using hfree, hwritten hrun⟩

/-- **Writing a file** extends the disk. -/
theorem extends_writeFile (hd : d.Rooted)
    (hrun : (fileSystem.writeFile base e.1 e.2.content e.2.overwrite).run d =
      (some outcome, after)) : Extends d after := by
  rcases writeFile_cases hrun with ⟨-, -, -, rfl⟩ | ⟨-, -, -, rfl⟩
  · exact .refl hd
  · exact extends_write hd _ _

section Run

variable (hd : d.Rooted) (hup : ".." ∉ Path.names base)

include hd hup

/-- **One file:** what is done with it on the disk is done with it on the map. -/
theorem run_writeFile_below (hsafe : IsSafe e.1)
    (hrun : (fileSystem.writeFile base e.1 e.2.content e.2.overwrite).run d =
      (some outcome, after))
    (hfree : e.2.overwrite = .ifMissing → d.isDirectory (d.home base ++ place e) = false) :
    ((FileMap.fileSystem base).writeFile base e.1 e.2.content e.2.overwrite).run
        (d.below (d.home base)) = (some outcome, after.below (d.home base)) := by
  rw [FileMap.run_writeFile hsafe]
  rcases writeFile_cases hrun with ⟨hmode, htaken, rfl, rfl⟩ | ⟨hmissing, rfl, hdone, rfl⟩
  · have hthere : after.isThere (after.home base ++ place e) := isThere_below hsafe hup htaken
    have hkept : (after.below (after.home base)).keeps e = true := by
      rw [isThere, hfree hmode, Bool.or_false] at hthere
      rw [FileMap.keeps, hmode]
      exact hthere
    rw [hkept, FileMap.put_of_keeps hkept]
    rfl
  · obtain ⟨hrelative, hpath, -⟩ := write_eq_of_done hdone
    have hfiles := files_write_below hd hsafe hup hdone
    have hwritten : (d.below (d.home base)).keeps e = false := by
      cases hmode : e.2.overwrite with
      | always => rw [FileMap.keeps, hmode]; rfl
      | ifMissing =>
        refine Bool.eq_false_iff.2 fun hkept => ?_
        have hthere : d.isThere (d.home base ++ place e) :=
          Bool.or_eq_true_iff.2 (.inl (Bool.and_eq_true_iff.1 hkept).2)
        exact absurd (isTaken_below hd hsafe hup hrelative hpath hthere) (by simp [hmissing hmode])
    rw [hwritten, FileMap.put_of_not_keeps hwritten, below_insert hfiles]
    rfl

/-- **A list of files:** what is done with it on a disk where everything succeeds is done with it
on the map. -/
theorem run_writeFrom_below {l : List (String × File)} {w result : Written}
    (hsafe : ∀ e ∈ l, IsSafe e.1)
    (hrun : (fileSystem.writeFrom base w l).run d = (some result, after))
    (hfree : ∀ e ∈ l, e.2.overwrite = .ifMissing →
      after.isDirectory (d.home base ++ place e) = false) :
    ((FileMap.fileSystem base).writeFrom base w l).run (d.below (d.home base)) =
        (some result, after.below (d.home base)) ∧
      Extends d after := by
  induction l generalizing d w with
  | nil =>
    obtain ⟨hresult, rfl⟩ := Prod.mk.inj hrun
    exact ⟨congrArg (·, d.below (d.home base)) hresult, .refl hd⟩
  | cons e l ih =>
    rw [List.forall_mem_cons] at hsafe hfree
    rcases hfirst : (fileSystem.writeFile base e.1 e.2.content e.2.overwrite).run d with
      ⟨_ | outcome, between⟩
    · have hstop : (fileSystem.writeFrom base w (e :: l)).run d = (none, between) := by
        rw [FileSystem.writeFrom_cons, StateT.run_bind, hfirst]
        rfl
      cases hrun.symm.trans hstop
    · have hstep : (fileSystem.writeFrom base w (e :: l)).run d =
          (fileSystem.writeFrom base (w.record e.1 outcome) l).run between := by
        rw [FileSystem.writeFrom_cons, StateT.run_bind, hfirst]
        rfl
      have hextends := extends_writeFile hd hfirst
      have hhome : between.home base = d.home base := by rw [home, hextends.here, home]
      rw [hstep] at hrun
      rw [← hhome] at hfree
      obtain ⟨hrest, hlater⟩ := ih hextends.rooted hsafe.2 hrun hfree.2
      refine ⟨?_, hextends.trans hlater⟩
      have hfreeFirst : e.2.overwrite = .ifMissing →
          d.isDirectory (d.home base ++ place e) = false := fun hmode =>
        Bool.eq_false_iff.2 fun hdirectory => by
          have hafter := (hextends.trans hlater).directories _ hdirectory
          rw [← hhome, hfree.1 hmode] at hafter
          cases hafter
      have hmap := run_writeFile_below hd hup hsafe.1 hfirst hfreeFirst
      rw [FileSystem.writeFrom_cons, StateT.run_bind, hmap, ← hhome]
      exact hrest

end Run

end Disk
end Pagewright
