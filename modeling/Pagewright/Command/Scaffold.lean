/-
# New workspaces

The manifest and the sample page of a new workspace.
-/

import Pagewright.Platform
import Pagewright.Text.Search

namespace Pagewright
namespace Scaffold

/-- The path of the manifest. -/
def manifestPath : String := "lowgen.toml"

/-- The path of the sample page. -/
def pagePath : String := "pages/home.json"

/-- The manifest of a new workspace. -/
def manifest (name : String) (p : Platform) : String :=
  "[project]\nname = \"" ++ name ++ "\"\nversion = \"0.1.0\"\nplatform = \"" ++ p.id ++
    "\"\npages = [\"" ++ pagePath ++ "\"]\n\n[styles]\n" ++
    "page = \x7b backgroundColor = \"#f5f5f5\" \x7d\n"

/-- The sample page. -/
def page : String :=
  Text.join "\n" [
    "\x7b",
    "  \"name\": \"Home\",",
    "  \"title\": \"Home\",",
    "  \"components\": \x7b",
    "    \"id\": \"root\",",
    "    \"type\": \"Container\",",
    "    \"style\": \x7b \"padding\": \"16px\" \x7d,",
    "    \"children\": [",
    "      \x7b \"id\": \"title\", \"type\": \"Text\", " ++
      "\"props\": \x7b \"content\": \"Hello\" \x7d, \"style\": \x7b \"fontSize\": 18 \x7d \x7d,",
    "      \x7b \"id\": \"go\", \"type\": \"Button\", " ++
      "\"props\": \x7b \"variant\": \"contained\", \"children\": \"Get started\" \x7d \x7d",
    "    ]",
    "  \x7d",
    "\x7d",
    ""]

end Scaffold
end Pagewright
