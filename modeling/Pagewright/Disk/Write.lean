/-
# Writing files

Files are written below a base directory, one after the other. A file that is
written only when it is missing is skipped when its path is taken. The first write
that fails ends the run; what was written before stays.
-/

import Pagewright.Disk.Basic

namespace Pagewright

open Project (Overwrite)

/-- What happened to a file. -/
inductive Outcome where
  | written
  | skipped
deriving DecidableEq

/-- The paths of the files of a run by outcome, in order. -/
structure Written where
  written : List String
  skipped : List String
deriving DecidableEq, Inhabited

/-- Records what happened to a file. -/
def Written.record (w : Written) (path : String) : Outcome → Written
  | .written => { w with written := w.written ++ [path] }
  | .skipped => { w with skipped := w.skipped ++ [path] }

namespace FileSystem

variable {m : Type → Type} [Monad m]

/-- Writes a file below a base; nothing if that fails. -/
def writeFile (fs : FileSystem m) (base path content : String) (overwrite : Overwrite) :
    m (Option Outcome) := do
  let target := Path.below base path
  let keep ←
    match overwrite with
    | .always => pure false
    | .ifMissing => fs.isTaken target
  if keep then return some .skipped
  let done ← fs.write target (.text content)
  return if done then some .written else none

/-- Writes files below a base on top of a record; nothing if one fails. -/
def writeFrom (fs : FileSystem m) (base : String) (w : Written) :
    List (String × Project.File) → m (Option Written)
  | [] => pure (some w)
  | (path, file) :: rest => do
    match ← fs.writeFile base path file.content file.overwrite with
    | some outcome => fs.writeFrom base (w.record path outcome) rest
    | none => return none

/-- Writes the files of a set below a base. -/
def writeAll (fs : FileSystem m) (base : String) (files : Project.FileSet) :
    m (Option Written) :=
  fs.writeFrom base default files.entries

end FileSystem
end Pagewright
