/-
# The application's configuration as text

The configuration lists the routes of the pages, one to a line and in quotes, and after
them the settings of the window:

```
export default defineAppConfig({
  pages: [
    "pages/home/index",
  ],
  window: {
    …
  },
});
```

The list stands at its place whatever the routes are (`appConfig_eq`). A route without a
character that has to be escaped stands between its quotes as it is (`quote_of_plain`).
-/

import Pagewright.Project.Configuration
import Pagewright.Proofs.Source.Writing
import Mathlib.Data.List.Basic

namespace Pagewright

/-- **A text of plain characters** is itself between quotes. -/
theorem Json.quote_of_plain {s : String} (h : ∀ c ∈ s.toList, Json.escape c = [c]) :
    Json.quote s = "\"" ++ s ++ "\"" := by
  have hself : s.toList.flatMap Json.escape = s.toList := by
    rw [List.flatMap_congr h, List.flatMap_singleton']
  apply String.ext
  rw [Json.quote, hself, String.toList_ofList, String.toList_append, String.toList_append]
  rfl

namespace Project

open Source (Writer Writes lineAt writes_line writes_foldl)

/-- The lines that list routes, each written by `spell`. -/
def listText (spell : String → String) (routes : List String) : String :=
  "  pages: [\n" ++ String.join (routes.map fun r => "    " ++ spell r ++ ",\n") ++ "  ],\n"

/-- The list of routes depends on how its own routes are spelled only. -/
theorem listText_congr {spell spell' : String → String} {routes : List String}
    (h : ∀ r ∈ routes, spell r = spell' r) : listText spell routes = listText spell' routes := by
  have hitems : ∀ r ∈ routes, "    " ++ spell r ++ ",\n" = "    " ++ spell' r ++ ",\n" :=
    fun r hr => by rw [h r hr]
  rw [listText, List.map_congr_left hitems, ← listText]

/-- The lines of the window settings. -/
def windowText (title : String) : String :=
  "  window: \x7b\n" ++
    ("    backgroundTextStyle: \"light\",\n" ++
      "    navigationBarBackgroundColor: \"#fff\",\n" ++
      ("    " ++ titleLine title ++ "\n") ++
      "    navigationBarTextStyle: \"black\",\n") ++
    "  \x7d,\n"

theorem lineAt_one (s : String) : lineAt default 1 s = "  " ++ s ++ "\n" := rfl

theorem lineAt_two (s : String) : lineAt default 2 s = "    " ++ s ++ "\n" := rfl

/-- An item with its comma is not an empty line. -/
theorem item_ne (s : String) : s ++ "," ≠ "" := fun h =>
  absurd (String.append_eq_empty_iff.1 h).2 (by decide)

/-- **The list of the routes** is written with a line for each. -/
theorem writes_list (routes : List String) :
    Writes default 1
      (·.block "pages: [" "]," fun w => routes.foldl (fun w r => w.line (Json.quote r ++ ",")) w)
      (listText Json.quote routes) := by
  have hitem : ∀ r, Writes default 2 (·.line (Json.quote r ++ ","))
      ("    " ++ Json.quote r ++ ",\n") := by
    intro r
    refine (writes_line (item_ne _)).of_eq ?_
    simp [lineAt_two, String.append_assoc]
  exact (writes_foldl hitem routes).block (by simp) (by simp)

/-- **The settings of the window** are written with the title in them. -/
theorem writes_window (title : String) :
    Writes default 1
      (·.block "window: \x7b" "\x7d," fun w =>
        w.line "backgroundTextStyle: \"light\","
          |>.line "navigationBarBackgroundColor: \"#fff\","
          |>.line (titleLine title)
          |>.line "navigationBarTextStyle: \"black\",")
      (windowText title) := by
  have hlines := (((writes_line (i := default) (n := 2)
      (s := "backgroundTextStyle: \"light\",") (by simp)).andThen
    (writes_line (s := "navigationBarBackgroundColor: \"#fff\",") (by simp))).andThen
    (writes_line (s := titleLine title) (item_ne _))).andThen
    (writes_line (s := "navigationBarTextStyle: \"black\",") (by simp))
  have hopen : "window: \x7b" ≠ "" := by simp
  have hclose : "\x7d," ≠ "" := by simp
  refine (hlines.block hopen hclose).of_eq ?_
  simp only [lineAt_one, lineAt_two, windowText, String.reduceAppend]

/-- **The configuration lists the routes**, between its head and the settings of the window. -/
theorem appConfig_eq (title : String) (routes : List String) :
    appConfig title routes =
      "export default defineAppConfig(\x7b\n" ++ listText Json.quote routes ++
        windowText title ++ "\x7d);\n" := by
  have hbody := (writes_list routes).andThen (writes_window title)
  have hopen : "export default defineAppConfig(\x7b" ≠ "" := by simp
  have hclose : "\x7d);" ≠ "" := by simp
  have htext := congrArg Writer.text (hbody.block hopen hclose "")
  exact htext.trans (by simp [lineAt, String.append_assoc])

end Project
end Pagewright
