import Restripe.CommandLine.Run
import Restripe.Shell.Host

/-!
# The program

The files that a command names are taken into a file system of its own, the command runs there, and
what it has changed is given back.  An outside solver is a script that is run there as well.
-/

namespace Restripe.CommandLine

/-- Take in a file, if it can be read. -/
def takeIn (fs : FileSystem) (path : Path) : IO FileSystem := do
  let .ok content ← (IO.FS.readBinFile path.display).toBaseIO | return fs
  let place : Disk Unit := do
    Disk.makeParents path
    Disk.write path content.toList
    Disk.makeExecutable path
  return (place.perform fs).2

/-- Give back a file as it has become. -/
def giveBack (before after : FileSystem) (path : Path) : IO Unit :=
  match (before.read path).toOption, (after.read path).toOption with
  | some _, none => IO.FS.removeFile path.display
  | old, some content =>
      unless old = some content do
        if let some parent := path.parent? then
          unless parent.bytes = [] do
            IO.FS.createDirAll parent.display
        IO.FS.writeBinFile path.display content.toByteArray
  | none, none => pure ()

/-- Run the command line on the files that it names. -/
def runOutside (arguments : List String) : IO Outcome := do
  let empty := Shell.systemAt (Path.ofString (← IO.currentDir).toString)
  let invocation? := (parse arguments).toOption
  let configured ← (invocation?.map Invocation.config).toList.foldlM takeIn empty
  let paths := (invocation?.map (Invocation.files · configured)).getD []
  let before ← paths.foldlM takeIn configured
  let (outcome, after) := run Shell.host arguments before
  paths.forM (giveBack before after)
  return outcome

end Restripe.CommandLine

def main (arguments : List String) : IO UInt32 := do
  let outcome ← Restripe.CommandLine.runOutside arguments
  IO.print (String.ofList outcome.output)
  IO.eprint (String.ofList outcome.diagnostics)
  return outcome.exitCode.toUInt32
