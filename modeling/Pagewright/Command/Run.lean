/-
# Running commands

A command works on a file system and finishes with an exit code and what it wrote to
the two outputs: `0` after success, `1` after a failure and for a check that found
errors, `2` for a misuse of the command line.
-/

import Pagewright.Command.Arguments
import Pagewright.Command.Scaffold
import Pagewright.Disk.Workspace
import Pagewright.Report.Check
import Pagewright.Report.Components
import Pagewright.Report.Generation

namespace Pagewright
namespace Command

open Report (Line)

/-- How a command finished. -/
structure Finish where
  code : Nat
  stdout : String
  stderr : String
deriving DecidableEq

/-- Why a command failed. -/
inductive Failure where
  | manifest (f : Manifest.Failure)
  | generation (f : Generation.Failure)
  | write (path : String)
  | noPlatform

namespace Failure

/-- The message. -/
def message : Failure → String
  | .manifest f => f.message
  | .generation f => f.message ++ ": " ++ f.root.message
  | .write path => "Failed to write project to " ++ path
  | .noPlatform => "Failed to get platform selection"

/-- How the failure can be mended. -/
def help? : Failure → Option String
  | .manifest f => f.help?
  | .generation f => f.root.help?
  | _ => none

/-- What is written to the error output. -/
def toText (f : Failure) : String :=
  "Error: " ++ f.message ++ "\n" ++
    match f.help? with
    | some help => "help: " ++ help ++ "\n"
    | none => ""

end Failure

namespace Finish

/-- A success with a report. -/
def report (lines : List Line) (code : Nat) : Finish :=
  ⟨code, Report.standardText lines, Report.errorText lines⟩

/-- A success that printed a text. -/
def printed (text : String) : Finish := ⟨0, text, ""⟩

/-- A failure. -/
def failed (f : Failure) : Finish := ⟨1, "", f.toText⟩

end Finish

/-- The heading of a platform's part in what is shown. -/
def dividerText (label : String) : String := (Line.divider label).toText ++ "\n"

/-- What is printed for a page: its markup and its style sheet, or its tree. -/
def previewText (page : Page) (p : Platform) (tree : Bool) (shown : Generation.Preview) : String :=
  if tree then shown.markup.toJson.pretty ++ "\n"
  else
    dividerText (page.name ++ " (" ++ p.displayName ++ ")") ++ shown.jsx ++ "\n" ++
      if shown.styles.isEmpty then "" else "\n" ++ dividerText "styles" ++ shown.styles

/-- What is printed after a workspace was made. -/
def createdText (p : Platform) (output : String) : String :=
  "Created new " ++ p.displayName ++ " project in " ++ output ++ "\n\nNext steps:\n" ++
    (if Path.components output = [Path.here] then "" else "  cd " ++ output ++ "\n") ++
    "  lowgen preview pages/home.json\n  lowgen generate\n"

variable {m : Type → Type} [Monad m]

/-- Makes a new workspace. A name of `.` stands for the working directory. -/
def runInit (fs : FileSystem m) (directory name : String) (output : Option String)
    (platform : Option Platform) : m Finish := do
  match platform with
  | none => return .failed .noPlatform
  | some p =>
    let output := output.getD name
    let project := if name = Path.here then directory else name
    let manifest := Scaffold.manifest project p
    match ← fs.writeFile output Scaffold.manifestPath manifest .ifMissing with
    | none => return .failed (.write output)
    | some _ =>
      match ← fs.writeFile output Scaffold.pagePath Scaffold.page .ifMissing with
      | none => return .failed (.write output)
      | some _ => return .printed (createdText p output)

/-- Writes a generated project below a directory, or shows its files. -/
def writeProject (fs : FileSystem m) (code : Project.Sources) (output : String) (dryRun : Bool) :
    m (Option Report.Result) := do
  if dryRun then return some (.shown code.toFileSet.contents)
  return (← fs.writeAll output code.toFileSet).map .written

/-- Runs something on the workspace of a manifest. -/
def withWorkspace (fs : FileSystem m) (config : String) (run : Workspace → m Finish) :
    m Finish := do
  match ← Workspace.load fs config with
  | .error f => return .failed (.manifest f)
  | .ok w => run w

/-- Generates the project of a workspace. -/
def runGenerate (fs : FileSystem m) (platform : Option Platform) (output : Option String)
    (dryRun : Bool) (w : Workspace) : m Finish := do
  let p := w.platform platform
  let output := output.getD w.file.outputDir
  match w.generate p with
  | .error f => return .failed (.generation f)
  | .ok code =>
    match ← writeProject fs code output dryRun with
    | none => return .failed (.write output)
    | some result =>
      let report : Report.Generated :=
        ⟨w.config, p, output, code.pages.size, code.diagnostics.filter (·.isWarning), result⟩
      return .report report.lines 0

/-- Checks a workspace. -/
def runCheck (platform : Option Platform) (w : Workspace) : m Finish :=
  let c := Report.check w.file.path w.file.registry w.pages (w.platform platform)
  pure (.report c.lines (if c.isValid then 0 else 1))

/-- Packs the project of a workspace. -/
def runPack (fs : FileSystem m) (platform : Option Platform) (output : String) (w : Workspace) :
    m Finish := do
  let p := w.platform platform
  match w.generate p with
  | .error f => return .failed (.generation f)
  | .ok code =>
    let archive := Archive.ofProject w.config p code
    let path := Path.join output archive.fileName
    if ← fs.makeDirectory output then
      if ← fs.write path (.archive archive.entries) then
        return .printed ("Packed " ++ path ++ " (" ++ p.displayName ++ ")\n")
    return .failed (.write path)

/-- Shows a page with the rules of a registry. -/
def showPage (r : Registry) (page : Page) (p : Platform) (tree : Bool) : Finish :=
  match Generation.preview r page p with
  | .error f => .failed (.generation f)
  | .ok shown => .printed (previewText page p tree shown)

/-- The platform of a page that is shown without a manifest. -/
def defaultPlatform : Platform := .weapp

/-- Runs a command in a working directory of the given name. -/
def run (fs : FileSystem m) (directory : String) : Command → m Finish
  | .init name output platform => runInit fs directory name output platform
  | .generate config platform output dryRun =>
    withWorkspace fs config (runGenerate fs platform output dryRun)
  | .check config platform => withWorkspace fs config (runCheck platform)
  | .preview path config platform tree => do
    match ← fs.readPage path with
    | .error f => return .failed (.manifest f)
    | .ok page =>
      match config with
      | none => return showPage .standard page (platform.getD defaultPlatform) tree
      | some config =>
        withWorkspace fs config fun w =>
          pure (showPage w.file.registry page (w.platform platform) tree)
  | .pack config platform output => withWorkspace fs config (runPack fs platform output)
  | .components config platform =>
    let platforms := (platform.map ([·])).getD Platform.all
    let report (r : Registry) : Finish := .report (Report.components r platforms) 0
    match config with
    | none => pure (report .standard)
    | some config => withWorkspace fs config fun w => pure (report w.file.registry)

/-- What is printed to a call for help. -/
def usage : String :=
  "Usage: " ++ program ++ " [-v] <command>\n\nCommands:\n" ++
    String.join (entries.map fun e => "  " ++ e.name ++ "\n")

/-- Runs the program with its arguments. -/
def runProgram (fs : FileSystem m) (directory : String) (args : List String) : m Finish :=
  match parse args with
  | .ok c => run fs directory c
  | .error .version => pure (.printed (program ++ " " ++ version ++ "\n"))
  | .error .help => pure (.printed usage)
  | .error .misuse => pure ⟨2, "", usage⟩

end Command
end Pagewright
