/-
# Workspaces

A workspace is a manifest file with the pages that it lists. The paths in a manifest
are relative to the directory that holds it.
-/

import Pagewright.Disk.Write
import Pagewright.Manifest.Basic
import Pagewright.Manifest.PageFile

namespace Pagewright

/-- A manifest with the path and the text it was read from. -/
structure ManifestFile where
  path : String
  text : String
  manifest : Manifest

namespace ManifestFile

/-- The directory of the manifest. -/
def baseDir (f : ManifestFile) : String := (Path.parent? f.path).getD Path.here

/-- The output directory of the project. -/
def outputDir (f : ManifestFile) : String := Path.join f.baseDir f.manifest.config.outputDir

/-- The registry with the components that the manifest declares. -/
def registry (f : ManifestFile) : Registry := Registry.standard.registerManifest f.manifest

end ManifestFile

namespace FileSystem

variable {m : Type → Type} [Monad m]

/-- Reads a file and makes something of its text. -/
def load (fs : FileSystem m) (path : String) (read : String → Except Manifest.Failure α) :
    m (Except Manifest.Failure α) := do
  match ← fs.read? path with
  | some text => return read text
  | none => return .error (.unreadable path)

/-- Opens a manifest file. -/
def openManifest (fs : FileSystem m) (path : String) :
    m (Except Manifest.Failure ManifestFile) :=
  fs.load path fun text => (Manifest.parse text).map fun manifest => ⟨path, text, manifest⟩

/-- Reads a page file. -/
def readPage (fs : FileSystem m) (path : String) : m (Except Manifest.Failure Page) :=
  fs.load path Manifest.parsePage

/-- Reads page files in order, up to the first that cannot be read. -/
def readPages (fs : FileSystem m) (baseDir : String) :
    List String → m (Except Manifest.Failure (List Page))
  | [] => pure (.ok [])
  | path :: rest => do
    match ← fs.readPage (Path.join baseDir path) with
    | .error f => return .error f
    | .ok page => return (← fs.readPages baseDir rest).map (page :: ·)

/-- Reads the pages that a manifest lists. -/
def loadPages (fs : FileSystem m) (f : ManifestFile) :
    m (Except Manifest.Failure (List Page)) :=
  fs.readPages f.baseDir f.manifest.config.pages

end FileSystem

/-- A manifest file with its pages. -/
structure Workspace where
  file : ManifestFile
  pages : List Page

namespace Workspace

/-- The settings of the project. -/
def config (w : Workspace) : Project.Config := w.file.manifest.config

/-- The platform asked for, or else the project's own. -/
def platform (w : Workspace) (requested : Option Platform) : Platform :=
  requested.getD w.config.platform

/-- Opens a workspace. -/
def load {m : Type → Type} [Monad m] (fs : FileSystem m) (path : String) :
    m (Except Manifest.Failure Workspace) := do
  match ← fs.openManifest path with
  | .error f => return .error f
  | .ok file => return (← fs.loadPages file).map fun pages => ⟨file, pages⟩

/-- Generates the project of a workspace. -/
def generate (w : Workspace) (p : Platform) : Except Generation.Failure Project.Sources :=
  Generation.generateProject w.file.registry w.pages p w.config

end Workspace
end Pagewright
