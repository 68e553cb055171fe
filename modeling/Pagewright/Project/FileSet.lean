/-
# File sets

The files of a generated project by path. A path is relative to the project and
has `/` between its segments. A file registered under a known path takes the
place of the earlier one. Files come out by category and, within a category, in
the order in which their paths were first registered.
-/

import Pagewright.Dict

namespace Pagewright
namespace Project

/-- What a file is for; it decides where the file comes in the output. -/
inductive Category where
  | config
  | app
  | page
  | style
deriving DecidableEq, Inhabited

namespace Category

/-- The categories in output order. -/
def all : List Category := [.config, .app, .page, .style]

/-- The name of a category. -/
def name : Category → String
  | .config => "config"
  | .app => "app"
  | .page => "page"
  | .style => "style"

/-- The place of a category in the output order. -/
def rank : Category → Nat
  | .config => 0
  | .app => 1
  | .page => 2
  | .style => 3

end Category

/-- What happens to a file that exists already. -/
inductive Overwrite where
  | always
  | ifMissing
deriving DecidableEq, Inhabited

/-- A file of a project. -/
structure File where
  content : String
  category : Category
  overwrite : Overwrite
deriving DecidableEq, Inhabited

/-- A file as it is shown before it is written. -/
structure ShownFile where
  path : String
  content : String
  category : Category
deriving DecidableEq

/-- Files by path. -/
structure FileSet where
  files : Dict String File
deriving DecidableEq

namespace FileSet

/-- No files. -/
def empty : FileSet := ⟨∅⟩

instance : EmptyCollection FileSet := ⟨empty⟩

instance : Inhabited FileSet := ⟨empty⟩

/-- Registers a file under a path. -/
def register (s : FileSet) (path : String) (file : File) : FileSet := ⟨s.files.insert path file⟩

/-- Registers a file that is always written. -/
def add (s : FileSet) (category : Category) (path content : String) : FileSet :=
  s.register path ⟨content, category, .always⟩

/-- Forgets every file. -/
def clear (_ : FileSet) : FileSet := ∅

/-- The file under a path. -/
def get? (s : FileSet) (path : String) : Option File := s.files.get? path

/-- The number of files. -/
def size (s : FileSet) : Nat := s.files.size

/-- Whether there is no file. -/
def isEmpty (s : FileSet) : Bool := s.files.isEmpty

/-- The files with their paths, in output order. -/
def entries (s : FileSet) : List (String × File) :=
  Category.all.flatMap fun c => s.files.entries.filter fun e => e.2.category = c

/-- The paths and contents, in output order. -/
def contents (s : FileSet) : List (String × String) :=
  s.entries.map fun e => (e.1, e.2.content)

/-- The contents by path. -/
def toDict (s : FileSet) : Dict String String := .ofList s.contents

/-- The files as they are shown, in output order. -/
def preview (s : FileSet) : List ShownFile :=
  s.entries.map fun e => ⟨e.1, e.2.content, e.2.category⟩

end FileSet
end Project
end Pagewright
