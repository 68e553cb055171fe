/-
# Disks

What commands need of a file system is a record of four operations in some monad:
reading a text, asking whether a path is taken, making a directory, and writing a
file. What is made or written has the directories on its way made first.

A disk is a file system in memory. A location is the list of names that lead to it
from the root; a path is followed from the location of the working directory, segment
by segment, and neither begins at the root nor leads above it.

| operation | every location on the way | at the end |
| --- | --- | --- |
| reading | is a directory | a text |
| asking | is a directory | a file or directory |
| making | is a directory or is made one | a directory, or nothing and a name in the path |
| writing | is a directory or is made one | no directory, and a name in the path |

A path is refused before anything is followed or made if it is too long or holds a
null character. Writing makes the directory of the file first, and only then asks
that of the path of the file. What fails keeps the directories it made until then.
-/

import Pagewright.Archive
import Pagewright.Disk.Path

namespace Pagewright

/-- The content of a file. -/
inductive Content where
  | text (s : String)
  | archive (entries : List (String × String))
deriving DecidableEq, Inhabited

/-- The operations of a file system, by path. -/
structure FileSystem (m : Type → Type) where
  /-- The text of a file, if there is one that holds text. -/
  read? : String → m (Option String)
  /-- Whether there is a file or directory. -/
  isTaken : String → m Bool
  /-- Makes a directory unless it is there, and those on its way; whether that succeeded. -/
  makeDirectory : String → m Bool
  /-- Writes a file, making the directories on its way; whether that succeeded. -/
  write : String → Content → m Bool

/-- A file system in memory: the working directory, the directories below the root,
and the files, by location. -/
structure Disk where
  here : List String
  directories : List (List String)
  files : Dict (List String) Content
deriving DecidableEq, Inhabited

namespace Disk

/-- A disk with nothing but a working directory of the given name. -/
def empty (name : String) : Disk := ⟨[name], [[name]], ∅⟩

/-- Whether a location is a directory. -/
def isDirectory (d : Disk) (location : List String) : Bool :=
  location.isEmpty || d.directories.contains location

/-- Whether a location is a file. -/
def isFile (d : Disk) (location : List String) : Bool := d.files.contains location

/-- The most bytes in the name of a file or directory. -/
def maxName : Nat := 255

/-- Whether a file or directory can have a name. -/
def isName (name : String) : Bool :=
  !name.isEmpty && name != "." && name != ".." && name.utf8ByteSize ≤ maxName

/-- The most bytes in a path. -/
def maxPath : Nat := 4095

/-- Whether a text can be a path. -/
def isPath (path : String) : Bool :=
  path.utf8ByteSize ≤ maxPath && !path.toList.contains '\x00'

/-- The location that segments lead to through directories. -/
def follow? (d : Disk) (location : List String) : List String → Option (List String)
  | [] => some location
  | segment :: rest =>
    if !d.isDirectory location then none
    else if segment.isEmpty || segment = "." then follow? d location rest
    else if segment = ".." then
      if location.isEmpty then none else follow? d location.dropLast rest
    else follow? d (location ++ [segment]) rest

/-- The location that a path leads to through directories. -/
def locate? (d : Disk) (path : String) : Option (List String) :=
  if path.isEmpty || !isPath path || Path.isAbsolute path then none
  else d.follow? d.here (Path.segments path)

/-- The text of a file. -/
def read? (d : Disk) (path : String) : Option String := do
  match d.files.get? (← d.locate? path) with
  | some (.text s) => some s
  | _ => none

/-- Whether there is a file or directory. -/
def isTaken (d : Disk) (path : String) : Bool :=
  (d.locate? path).any fun location => d.isFile location || d.isDirectory location

/-- Follows segments from a directory and makes the directories that are missing;
nothing is reached where a file is in the way. -/
def makeWay (d : Disk) (location : List String) : List String → Disk × Option (List String)
  | [] => (d, some location)
  | segment :: rest =>
    let next := location ++ [segment]
    if segment = "." then makeWay d location rest
    else if segment = ".." then
      if location.isEmpty then (d, none) else makeWay d location.dropLast rest
    else if d.isDirectory next then makeWay d next rest
    else if d.isFile next || !isName segment then (d, none)
    else makeWay { d with directories := d.directories ++ [next] } next rest

/-- Makes a directory and those on its way, unless they are there, and leads to it.
One whose path ends with the segment `.` is not made itself: it has to be there. -/
def makeDirectory (d : Disk) (path : String) : Disk × Option (List String) :=
  let names := Path.components path
  if path.isEmpty then (d, some d.here)
  else if Path.isAbsolute path || !isPath path then (d, none)
  else if Path.endsInHere path then
    let (d, _) := d.makeWay d.here names.dropLast
    (d, d.locate? path)
  else d.makeWay d.here names

/-- Writes a file in a directory; whether that succeeded. -/
def writeIn (d : Disk) (directory : List String) (name : String) (content : Content) :
    Disk × Bool :=
  let location := directory ++ [name]
  if !isName name || d.isDirectory location then (d, false)
  else ({ d with files := d.files.insert location content }, true)

/-- Writes a file, making the directories on its way; whether that succeeded. -/
def write (d : Disk) (path : String) (content : Content) : Disk × Bool :=
  if Path.isAbsolute path then (d, false)
  else
    let (d, directory) := d.makeDirectory ((Path.parent? path).getD "")
    match directory, (Path.segments path).getLast? with
    | some directory, some name =>
      if isPath path then d.writeIn directory name content else (d, false)
    | _, _ => (d, false)

/-- The disk as a file system. -/
def fileSystem : FileSystem (StateM Disk) where
  read? path := do return (← get).read? path
  isTaken path := do return (← get).isTaken path
  makeDirectory path := modifyGet fun d =>
    let (d, directory) := d.makeDirectory path
    (directory.isSome, d)
  write path content := modifyGet fun d =>
    let (d, done) := d.write path content
    (done, d)

/-- The files below the working directory: their paths and contents, in the order of
the paths. -/
def entries (d : Disk) : List (String × Content) :=
  let below := d.files.entries.filter fun e => d.here.isPrefixOf e.1
  (below.map fun e => (Text.join "/" (e.1.drop d.here.length), e.2)).mergeSort
    fun a b => decide (a.1 ≤ b.1)

/-- A disk with texts written below a working directory of the given name. -/
def ofTexts (name : String) (texts : List (String × String)) : Disk :=
  texts.foldl (fun d e => (d.write e.1 (.text e.2)).1) (empty name)

end Disk
end Pagewright
