import Restripe.Validation

/-!
# Configurations

A configuration says what a transition is to do, where its files are, and which solver runs.
Artifacts lie in the metadata directory unless their path is absolute.
-/

namespace Restripe

/-- The directories of an epoch, and the names of the artifacts. -/
structure Locations where
  metadataDirectory : Path := .ofString "metadata"
  dataDirectory : Path := .ofString "data"
  prePlacement : Path := .ofString "pre_placement"
  preBlockMapping : Path := .ofString "pre_block_mapping"
  postPlacement : Path := .ofString "post_placement"
  postBlockMapping : Path := .ofString "post_block_mapping"
  stripeGroups : Path := .ofString "sg_meta"
  solverLog : Path := .ofString "solver.log"
  deriving DecidableEq, Repr

/-- How the solver and the reconciliation run. -/
structure SolverSettings where
  /-- The program of an outside solver; without one the solver of this library runs. -/
  program : Option Path := none
  /-- Where an outside solver runs, if not where its caller does. -/
  workingDirectory : Option Path := none
  /-- Workers of the reconciliation; zero asks for as many as there are processors. -/
  workers : UInt64 := 0
  /-- Seed of the placement of a new epoch. -/
  seed : UInt64 := 0
  deriving DecidableEq, Repr

/-- All there is to say about a transition. -/
structure Config where
  code : Code
  cluster : Cluster
  approach : Approach
  /-- Whether an outside catalog knows where the blocks are. -/
  managed : Bool := false
  /-- Bytes of a block. -/
  blockSize : UInt64 := 1048576
  locations : Locations := {}
  solver : SolverSettings := {}
  deriving DecidableEq, Repr

namespace Locations

def artifact (locations : Locations) (name : Path) : Path :=
  if name.isAbsolute then name else locations.metadataDirectory.join name

def prePlacementPath (locations : Locations) : Path := locations.artifact locations.prePlacement

def preBlockMappingPath (locations : Locations) : Path :=
  locations.artifact locations.preBlockMapping

def postPlacementPath (locations : Locations) : Path := locations.artifact locations.postPlacement

def postBlockMappingPath (locations : Locations) : Path :=
  locations.artifact locations.postBlockMapping

def stripeGroupsPath (locations : Locations) : Path := locations.artifact locations.stripeGroups

def solverLogPath (locations : Locations) : Path := locations.artifact locations.solverLog

end Locations

/-- Take a path that is not absolute to start from `base`. -/
def Path.rebase (base path : Path) : Path :=
  if path.isAbsolute then path else base.join path

namespace Config

/-- Take the directories of a configuration, and a program that is no bare name, to start from the
directory that the configuration lies in. -/
def rebase (config : Config) (base : Path) : Config :=
  { config with
    locations := { config.locations with
      metadataDirectory := base.rebase config.locations.metadataDirectory
      dataDirectory := base.rebase config.locations.dataDirectory }
    solver := { config.solver with
      program := config.solver.program.map fun program =>
        if 1 < program.components.length then base.rebase program else program
      workingDirectory := config.solver.workingDirectory.map base.rebase } }

/-- Check a configuration; gives the fan-in of its code. -/
def validate (config : Config) : Except Error UInt16 := do
  let fanIn ← config.cluster.validate config.code
  if config.blockSize = 0 then
    throw (.config .zeroBlockSize)
  pure fanIn

end Config

/-!
## Overriding a configuration

A user may override some of what a configuration says for a single run.
-/

/-- What is to differ from a configuration. -/
structure Overrides where
  /-- The program of an outside solver. -/
  program : Option Path := none
  workers : Option UInt64 := none
  seed : Option UInt64 := none
  /-- Whether the solver of this library is to run, whatever the program is. -/
  sequential : Bool := false
  /-- Whether the stripes are to be rounded up to whole groups. -/
  roundUp : Bool := false
  deriving DecidableEq, Repr

def SolverSettings.override (settings : SolverSettings) (overrides : Overrides) : SolverSettings :=
  { settings with
    program := if overrides.sequential then none else overrides.program.or settings.program
    workers := overrides.workers.getD settings.workers
    seed := overrides.seed.getD settings.seed }

/-- Round the stripes of a configuration up to whole groups. -/
def Config.roundUp (config : Config) : Except Error Config := do
  let fanIn ← config.code.fanIn
  return { config with cluster := ← config.cluster.roundUp fanIn }

def Config.override (config : Config) (overrides : Overrides) : Except Error Config :=
  let overridden := { config with solver := config.solver.override overrides }
  if overrides.roundUp then overridden.roundUp else pure overridden

end Restripe
