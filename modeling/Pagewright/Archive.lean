/-
# Project archives

An archive holds the files of a generated project in output order.
-/

import Pagewright.Generation.Project

namespace Pagewright

/-- Named texts in order, under a file name. -/
structure Archive where
  fileName : String
  entries : List (String × String)

namespace Archive

/-- The extension of archives. -/
def extension : String := "zip"

/-- The archive of a project. -/
def ofProject (config : Project.Config) (p : Platform) (code : Project.Sources) : Archive :=
  ⟨config.name ++ "-" ++ p.id ++ "." ++ extension, code.toFileSet.contents⟩

end Archive
end Pagewright
