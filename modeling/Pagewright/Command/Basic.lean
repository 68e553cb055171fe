/-
# Commands

What the command line can be asked to do.

| command | |
| --- | --- |
| `init` | makes a new workspace with a sample page |
| `generate` | writes the project of a workspace, or shows it in a dry run |
| `check` | looks for defects in a workspace |
| `preview` | shows the markup and the style sheet of a page |
| `pack` | writes the project of a workspace as an archive |
| `components` | lists component types and their rules |
-/

import Pagewright.Platform

namespace Pagewright

/-- A command with its arguments. -/
inductive Command where
  | init (name : String) (output : Option String) (platform : Option Platform)
  | generate (config : String) (platform : Option Platform) (output : Option String)
    (dryRun : Bool)
  | check (config : String) (platform : Option Platform)
  | preview (page : String) (config : Option String) (platform : Option Platform) (tree : Bool)
  | pack (config : String) (platform : Option Platform) (output : String)
  | components (config : Option String) (platform : Option Platform)
deriving DecidableEq

namespace Command

/-- The name of the program. -/
def program : String := "lowgen"

/-- The version of the program. -/
def version : String := "0.3.0"

/-- The manifest that commands use unless told otherwise. -/
def defaultManifest : String := "lowgen.toml"

end Command
end Pagewright
