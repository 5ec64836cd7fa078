import Restripe.CommandLine.Arguments
import Restripe.Config.File
import Restripe.Epoch
import Restripe.Transition

/-!
# Running a command

A command prints its result, or what went wrong with the exit code of that error.  The report of a
failure names the configuration after the first `--config` among the arguments.
-/

namespace Restripe.CommandLine

/-- What a command prints and how it ends. -/
structure Outcome where
  exitCode : UInt8
  output : Text
  diagnostics : Text
  deriving DecidableEq, Repr

/-- The indented JSON of a result on lines of its own. -/
def printed (result : Option Datum) : Except Error Text :=
  match result with
  | some datum => pure (Json.pretty datum ++ ['\n'])
  | none => throw (.internal .unwritableReport)

/-- Write a report where it is to go; gives what is left to print. -/
def deliver (report : Report) : Option Path → Disk Text
  | some path => do
      report.save path
      return []
  | none => printed report.toDatum?

/-- Run a command; gives what it prints. -/
def Invocation.perform (invocation : Invocation) (host : Host) : Disk Text := do
  let config ← (← Config.load invocation.config).override invocation.overrides
  match invocation.command with
  | .beginEpoch => printed (← beginEpoch config).toDatum?
  | .transition => deliver (← runTransition host config config.solver.solver) invocation.report
  | .reconcile => deliver (← reconcileArtifacts host config) invocation.report

/-! ## Failures -/

def diagnostic (words : String) : Text :=
  words.toList ++ ['\n']

/-- The configuration that the report of a failure names. -/
def reportedConfig? (arguments : List String) : Option String :=
  (arguments.dropWhile (· ≠ ValueOption.config.name)).tail.head?

/-- The report of a failed run. -/
def failureReport (arguments : List String) (cause : Error) : Text :=
  diagnostic s!"error[{cause.code}]: {cause.message}"
    ++ (cause.suggestion?.map (fun hint => diagnostic s!"hint: {hint}")).getD []
    ++ ((reportedConfig? arguments).map (fun config => diagnostic s!"config: {config}")).getD []

def usageExitCode : UInt8 := 64

def Refusal.outcome : Refusal → Outcome
  | .help => ⟨0, helpText.toList, []⟩
  | .usage fault =>
      ⟨usageExitCode, [], diagnostic s!"error: {fault.message}"
        ++ diagnostic "run \x60ectrans --help\x60 for usage"⟩

def run (host : Host) (arguments : List String) (fs : FileSystem) : Outcome × FileSystem :=
  match parse arguments with
  | .error refusal => (refusal.outcome, fs)
  | .ok invocation =>
      match (invocation.perform host).perform fs with
      | (.ok output, after) => (⟨0, output, []⟩, after)
      | (.error cause, after) => (⟨cause.exitCode, [], failureReport arguments cause⟩, after)

end Restripe.CommandLine

/-!
## The files of a command

A command reads and replaces only files that its arguments and its configuration name.
-/

namespace Restripe

/-- The program of an outside solver, as seen from where its caller runs. -/
def SolverSettings.programPath? (settings : SolverSettings) : Option Path :=
  settings.program.map fun program =>
    match settings.workingDirectory with
    | some directory => directory.join program
    | none => program

/-- The files that a run with a configuration reads or replaces. -/
def Config.files (config : Config) : List Path :=
  let locations := config.locations
  [locations.prePlacementPath, locations.preBlockMappingPath, locations.postPlacementPath,
    locations.postBlockMappingPath, locations.stripeGroupsPath, locations.solverLogPath]
    ++ config.solver.programPath?.toList

namespace CommandLine

/-- The files that a command reads or replaces, in a file system that holds its configuration. -/
def Invocation.files (invocation : Invocation) (fs : FileSystem) : List Path :=
  let load : Disk Config := do (← Config.load invocation.config).override invocation.overrides
  match load.perform fs with
  | (.ok config, _) => config.files ++ invocation.report.toList
  | (.error _, _) => []

end CommandLine

end Restripe
