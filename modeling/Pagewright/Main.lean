/-
# The program

Runs a command on the files of the machine.
-/

import Pagewright.Archive.Zip
import Pagewright.Command.Run

namespace Pagewright

/-- The bytes of a file's content. -/
def Content.bytes : Content → ByteArray
  | .text s => s.toUTF8
  | .archive entries => ⟨(Archive.Zip.file entries).toArray⟩

/-- Whether an action succeeds. -/
def succeeds (action : IO Unit) : IO Bool := do
  try
    action
    return true
  catch _ => return false

/-- Makes a directory and those on its way; an empty path is the working directory. -/
def makeDirectories (path : String) : IO Unit :=
  if path.isEmpty then pure () else IO.FS.createDirAll path

/-- The files of the machine. -/
def machine : FileSystem IO where
  read? path := do
    try return some (← IO.FS.readFile path)
    catch _ => return none
  isTaken path := succeeds (discard (IO.FS.realPath path))
  makeDirectory path := succeeds do
    if Path.endsInHere path then
      makeDirectories ((Path.parent? path).getD "")
      discard (IO.FS.realPath path)
    else makeDirectories path
  write path content := succeeds do
    makeDirectories ((Path.parent? path).getD "")
    IO.FS.writeBinFile path content.bytes

/-- The name of the working directory. -/
def directoryName : IO String := do
  let path := toString (← IO.FS.realPath Path.here)
  return (Path.components path).getLastD path

/-- Runs a command on the machine; the result is the exit code. -/
def runOnMachine (args : List String) : IO UInt32 := do
  let finish ← Command.runProgram machine (← directoryName) args
  IO.print finish.stdout
  IO.eprint finish.stderr
  return finish.code.toUInt32

end Pagewright

/-- Runs the program. -/
def main (args : List String) : IO UInt32 := Pagewright.runOnMachine args
