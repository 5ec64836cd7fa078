import Restripe.FileSystem.Disk
import Restripe.Text.Line

/-!
# Outside solvers

An outside solver is run once.  Artifacts of an earlier run are taken away first, so that they do
not pass for its own; what it prints goes to the log and decides nothing.
-/

/-!
## Child programs

An outside solver is a program of its own.  All that is known of it is what it does to the file
system, what it prints and how it ends, so a machine that runs programs is a function that says so.
-/

namespace Restripe

/-- A program to be started. -/
structure Child where
  program : Path
  arguments : List String
  /-- Where the program runs, if not where its caller does. -/
  workingDirectory : Option Path
  deriving DecidableEq, Repr

/-- What a program printed and how it ended. -/
structure ChildOutcome where
  output : Bytes
  diagnostics : Bytes
  status : ExitStatus
  deriving DecidableEq, Repr

/-- A machine that programs run on. -/
structure Host where
  /-- Run a program to its end, or say why it cannot be started. -/
  run : Child → FileSystem → Except IoFault ChildOutcome × FileSystem
  /-- How many workers could run at once. -/
  processors : Nat

/-!
## What a solver is asked

A request names the transition, the placement that a solver reads and the two artifacts that it has
to write.
-/

/-- What a solver is asked. -/
structure SolveRequest where
  code : Code
  cluster : Cluster
  approach : Approach
  prePlacement : Path
  postPlacement : Path
  stripeGroups : Path
  /-- Where to keep a log, if anywhere. -/
  log : Option Path
  deriving DecidableEq, Repr

namespace SolveRequest

/-- The request as arguments of a program. -/
def arguments (request : SolveRequest) : List String :=
  [toString request.code.dataBefore, toString request.code.parityBefore,
    toString request.code.dataAfter, toString request.code.parityAfter,
    toString request.cluster.nodes, toString request.cluster.stripes, request.approach.name,
    request.prePlacement.display, request.postPlacement.display, request.stripeGroups.display]

/-- The artifacts that a solver has to write, with their paths. -/
def outputs (request : SolveRequest) : List (Artifact × Path) :=
  [(.postPlacement, request.postPlacement), (.stripeGroups, request.stripeGroups)]

def checkOutputs (request : SolveRequest) : Disk Unit :=
  request.outputs.forM fun (artifact, path) => do
    unless (← get).isFile path do
      throw (.solver (.missingOutput artifact path))

end SolveRequest

/-!
## The end of what a program complains

Of a long complaint only the end is shown: the longest one that fits a number of bytes without
cutting a character.
-/

/-- The longest front of a text that fits a number of bytes. -/
def takeBytes (budget : Nat) : Text → Text
  | [] => []
  | char :: rest =>
      if char.utf8Size ≤ budget then char :: takeBytes (budget - char.utf8Size) rest else []

/-- The longest end of a text that fits a number of bytes. -/
def takeLastBytes (budget : Nat) (text : Text) : Text :=
  (takeBytes budget text.reverse).reverse

def diagnosticsBudget : Nat := 512

/-- What is shown of a complaint: all of it without the blanks around it, or three dots and its end.
-/
def diagnosticsTail (bytes : Bytes) : Text :=
  let text := trimBlanks (Utf8.lossy bytes)
  if Utf8.byteLength text ≤ diagnosticsBudget then text
  else ['.', '.', '.'] ++ takeLastBytes diagnosticsBudget text

/-! ## Running a solver -/

/-- A program that solves. -/
structure ExternalSolver where
  program : Path
  /-- Arguments before those of the request. -/
  leadingArguments : List String
  workingDirectory : Option Path
  deriving DecidableEq, Repr

namespace ExternalSolver

def child (solver : ExternalSolver) (request : SolveRequest) : Child where
  program := solver.program
  arguments := solver.leadingArguments ++ request.arguments
  workingDirectory := solver.workingDirectory

def runLog (solver : ExternalSolver) (request : SolveRequest) (outcome : ChildOutcome) : Bytes :=
  let arguments := String.intercalate " " request.arguments
  Bytes.ofString s!"$ {solver.program.display} {arguments}\n--- stdout ---\n"
    ++ outcome.output ++ Bytes.ofString "\n--- stderr ---\n" ++ outcome.diagnostics
    ++ Bytes.ofString s!"\n--- status: {outcome.status.display} ---\n"

def start (solver : ExternalSolver) (host : Host) (request : SolveRequest) : Disk ChildOutcome := do
  let (result, fs) := host.run (solver.child request) (← get)
  set fs
  match result with
  | .ok outcome => pure outcome
  | .error fault => throw (.solver (.notStarted solver.program fault))

/-- Have the program solve what is asked. -/
def solve (solver : ExternalSolver) (host : Host) (request : SolveRequest) : Disk Unit := do
  Disk.removeIfPresent request.postPlacement
  Disk.removeIfPresent request.stripeGroups
  let outcome ← solver.start host request
  if let some log := request.log then
    Disk.makeParents log
    Disk.write log (solver.runLog request outcome)
  unless outcome.status.isSuccess do
    throw (.solver
      (.failed solver.program outcome.status (diagnosticsTail outcome.diagnostics)))
  request.checkOutputs

end ExternalSolver

end Restripe
