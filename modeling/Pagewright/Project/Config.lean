/-
# Project settings

What a manifest says about a project as a whole.
-/

import Pagewright.Json.Basic
import Pagewright.Platform
import Pagewright.Version

namespace Pagewright
namespace Project

/-- The settings of a project. -/
structure Config where
  name : String
  version : Version
  platform : Platform
  /-- The directory of generated projects, below the manifest's. -/
  outputDir : String
  author : Option String
  description : Option String
  /-- The application id of mini programs. -/
  appId : Option String
  /-- The page files, below the manifest's directory. -/
  pages : List String
  /-- The style maps of the whole application, by selector. -/
  globalStyles : Dict String (Dict String Json)

namespace Config

/-- The output directory unless a manifest says otherwise. -/
def defaultOutputDir : String := "dist"

/-- The settings of a project that says nothing but its name and platform. -/
def new (name : String) (platform : Platform) : Config :=
  ⟨name, .initial, platform, defaultOutputDir, none, none, none, [], ∅⟩

end Config
end Project
end Pagewright
