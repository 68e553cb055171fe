/-
# The report on a generation

A generation has written a project or, in a dry run, shows what it would write.
-/

import Pagewright.Disk.Write
import Pagewright.Report.Line

namespace Pagewright
namespace Report

/-- What a generation did with the files. -/
inductive Result where
  | written (w : Written)
  | shown (files : List (String × String))

/-- What there is to say about a generation. -/
structure Generated where
  config : Project.Config
  platform : Platform
  outputDir : String
  pageCount : Nat
  warnings : List Diagnostic
  result : Result

namespace Generated

/-- The lines for the files of a dry run. -/
def shownLines (files : List (String × String)) : List Line :=
  files.flatMap (fun e => [.divider e.1, .text e.2]) ++
    [.divider "Summary", .text (toString files.length ++ " files would be generated")]

/-- The lines for the files written and kept. -/
def writtenLines (outputDir : String) (w : Written) : List Line :=
  .heading ("Generated into " ++ outputDir) :: w.written.map .added ++
    if w.skipped.isEmpty then []
    else .blank :: .heading "Kept existing" :: w.skipped.map .item

/-- The lines of the report. -/
def lines (g : Generated) : List Line :=
  g.warnings.map (fun d => .warning ("warning: " ++ d.located " (" ")")) ++
    (if g.warnings.isEmpty then [] else [.blank]) ++
    match g.result with
    | .shown files => shownLines files
    | .written w =>
      [.text (g.config.name ++ " v" ++ g.config.version.toText),
        .keyValue "platform" g.platform.displayName,
        .keyValue "pages" (toString g.pageCount),
        .blank] ++ writtenLines g.outputDir w

end Generated
end Report
end Pagewright
