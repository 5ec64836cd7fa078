import Restripe.FileSystem.Disk
import Restripe.Shell.Run

/-!
# A machine that runs scripts

A program is found by its path, or by its bare name in the directories of programs, after the change
to the directory that it is to run in.  The machine has a shell and the utilities; any other program
is a file whose first line names the program that reads it.
-/

namespace Restripe.Shell

/-- Directories that hold programs, in the order in which they are searched. -/
def programDirectories : List Path :=
  ["/usr/local/sbin", "/usr/local/bin", "/usr/sbin", "/usr/bin", "/sbin", "/bin"].map Path.ofString

def shellNames : List String := ["sh", "dash"]

def programNames : List String :=
  shellNames ++ utilities.map Prod.fst

/-- The address that names lead to from the root. -/
def address (names : List String) : Address :=
  names.map Bytes.ofString

/-- The file system of the machine: its programs, which hold nothing to be read, and a place to
work. -/
def baseSystem : FileSystem where
  nodes :=
    [["bin"], ["usr"], ["usr", "bin"], ["tmp"], ["dev"]].map (fun names =>
        (address names, Node.directory))
      ++ (address ["dev", "null"], .file [] false)
      :: programNames.flatMap fun name =>
        [(address ["bin", name], .file [] true), (address ["usr", "bin", name], .file [] true)]
  workingDirectory := []

/-- The name of the program of the machine at an address. -/
def programAt? (place : Address) : Option String :=
  programNames.find? fun name =>
    place == address ["bin", name] || place == address ["usr", "bin", name]

/-! ## Finding programs -/

/-- The file of a program, which has to be one that may be executed. -/
def executable (fs : FileSystem) (path : Path) : Except IoFault (Address × Bytes) := do
  let place ← fs.locate path
  match fs.find? place with
  | some (.file content true) => pure (place, content)
  | some _ => throw .permissionDenied
  | none => throw .notFound

/-- Find a bare name in directories; that a file may not be executed is told only if no other is
found. -/
def search (fs : FileSystem) (name : Bytes) (missing : IoFault) :
    List Path → Except IoFault Path
  | [] => throw missing
  | directory :: rest =>
      let path := directory.join ⟨name⟩
      match executable fs path with
      | .ok _ => pure path
      | .error .permissionDenied => search fs name .permissionDenied rest
      | .error _ => search fs name missing rest

def programPath (fs : FileSystem) (program : Path) : Except IoFault Path :=
  if program.bytes = [] then throw .notFound
  else if program.bytes.contains Path.separator then pure program
  else search fs program.bytes .notFound programDirectories

/-! ## Running programs -/

/-- The number of the one program that runs. -/
def processNumber : Nat := 4242

/-- A process that has printed nothing yet. -/
def process (fs : FileSystem) (endsOnFailure : Bool) (name : Text) (arguments : List Text) :
    Process where
  fs := fs
  output := []
  diagnostics := []
  environment := ⟨name, arguments, [], 0, processNumber⟩
  endsOnFailure := endsOnFailure

def runFile (shell name : Text) : Action Unit := do
  match (← get).fs.read (pathOf name) with
  | .ok content => runText (ofBytes content)
  | .error fault =>
      let reason := openFailure "No such file" fault
      emit .diagnostics
        s!"{String.ofList shell}: 0: cannot open {String.ofList name}: {reason}\n".toList
      throw (.code 2)

/-- Run the shell: a command that is given, or a script file with its arguments. -/
def runShell (fs : FileSystem) (shell : Text) (endsOnFailure : Bool) :
    List Text → ChildOutcome × FileSystem
  | [] => runProcess (pure ()) (process fs endsOnFailure shell [])
  | ['-', 'e'] :: arguments => runShell fs shell true arguments
  | ['-', 'c'] :: command :: arguments =>
      runProcess (runText command)
        (process fs endsOnFailure (arguments.headD shell) arguments.tail)
  | name :: arguments =>
      runProcess (runFile shell name) (process fs endsOnFailure name arguments)

def runAlone (fs : FileSystem) (name : Text) (utility : Utility) (arguments : List Text) :
    ChildOutcome × FileSystem :=
  runProcess (runUtility ⟨[], .output, .diagnostics⟩ utility arguments)
    (process fs false name arguments)

/-- The program that reads a file, and an argument for it, named after `#!` on the first line. -/
def interpreter? (content : Bytes) : Option (List Text) :=
  match ofBytes content with
  | '#' :: '!' :: rest =>
      let line := (rest.takeWhile (· != '\n')).dropWhile fun char => char == ' ' || char == '\t'
      let isBlank (char : Char) : Bool := char == ' ' || char == '\t'
      let argument := (line.dropWhile (!isBlank ·)).dropWhile isBlank
      let argument := (argument.reverse.dropWhile isBlank).reverse
      some (line.takeWhile (!isBlank ·) :: if argument.isEmpty then [] else [argument])
  | _ => none

/-- Run the program at a path.  A file may be read by another program, which is one of the machine.
-/
def runProgram (fs : FileSystem) (path : Path) (name : Text) (arguments : List Text) :
    (depth : Nat) → Except IoFault (ChildOutcome × FileSystem)
  | 0 => throw .notExecutableFormat
  | depth + 1 => do
      let (place, content) ← executable fs path
      match programAt? place with
      | some program =>
          if shellNames.contains program then return runShell fs name false arguments
          else match utilities.lookup program with
            | some utility => return runAlone fs name utility arguments
            | none => throw .notFound
      | none =>
          match interpreter? content with
          | some (interpreter :: options) =>
              runProgram fs (pathOf interpreter) interpreter
                (options ++ ofBytes path.bytes :: arguments) depth
          | _ => throw .notExecutableFormat

/-- How many programs may read one another. -/
def maxInterpreters : Nat := 5

/-- The file system as seen from another directory. -/
def enter (fs : FileSystem) (directory : Path) : Except IoFault FileSystem := do
  let place ← fs.locate directory
  fs.stand place
  pure { fs with workingDirectory := place }

/-- The file system of the machine as seen from a directory that is made for it. -/
def systemAt (directory : Path) : FileSystem :=
  let (_, fs) := (Disk.makeDirectories directory).perform baseSystem
  match enter fs directory with
  | .ok inside => inside
  | .error _ => fs

/-- Start a program and run it to its end. -/
def start (child : Child) (fs : FileSystem) : Except IoFault (ChildOutcome × FileSystem) := do
  let arguments := child.arguments.map Bytes.ofString
  let strings := child.program.bytes :: (child.workingDirectory.map Path.bytes).toList ++ arguments
  if strings.any (·.contains 0) then
    throw .nulInArgument
  let inside ← match child.workingDirectory with
    | some directory => enter fs directory
    | none => pure fs
  let path ← programPath inside child.program
  runProgram inside path (ofBytes child.program.bytes) (arguments.map ofBytes) maxInterpreters

/-- The machine.  A program that cannot be started leaves the file system as it is. -/
def host : Host where
  run child fs :=
    match start child fs with
    | .ok (outcome, after) =>
        (.ok outcome, { after with workingDirectory := fs.workingDirectory })
    | .error fault => (.error fault, fs)
  processors := 1

end Restripe.Shell
