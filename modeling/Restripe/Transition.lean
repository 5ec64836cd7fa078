import Restripe.Metadata.Store
import Restripe.Reconcile
import Restripe.Report
import Restripe.Solver

/-!
# Transitions

A transition reads what is known before it, has a solver decide about the new stripes, and
reconciles the two.  The new block mapping is written last, so no failure leaves a part of it.
-/

namespace Restripe

namespace Transition

/-- The provenance before a transition; nothing is read where an outside catalog knows it. -/
def loadBefore (config : Config) : Disk ProvenanceTable :=
  if config.managed then pure .empty
  else ProvenanceTable.load config.locations.preBlockMappingPath

/-- Read a placement of a known number of stripes.  A surplus or a lack is reported on the first
line that is too many or missing. -/
def loadRows (config : Config) (path : Path) (width : UInt16) (expected : UInt32) :
    Disk Placement := do
  let placement ← Placement.load ⟨width, config.cluster.nodes⟩ path
  let found := placement.length
  if found ≠ expected.toNat then
    throw (.parse path (min found expected.toNat + 1) (.stripeCount expected.toNat found))
  pure placement

def request (config : Config) : SolveRequest where
  code := config.code
  cluster := config.cluster
  approach := config.approach
  prePlacement := config.locations.prePlacementPath
  postPlacement := config.locations.postPlacementPath
  stripeGroups := config.locations.stripeGroupsPath
  log := some config.locations.solverLogPath

def artifacts (config : Config) (log : Option Path) : ReportArtifacts where
  prePlacement := config.locations.prePlacementPath
  preBlockMapping :=
    if config.managed then none else some config.locations.preBlockMappingPath
  postPlacement := config.locations.postPlacementPath
  stripeGroups := config.locations.stripeGroupsPath
  postBlockMapping := config.locations.postBlockMappingPath
  solverLog := log

def input (config : Config) (before : ProvenanceTable) (placement : Placement)
    (groups : List StripeGroup) : Reconciliation where
  code := config.code
  cluster := config.cluster
  before
  placement
  groups
  dataDirectory := config.locations.dataDirectory
  managed := config.managed
  workers := config.solver.workers

/-- What is reported of a transition; time is not measured. -/
def report (config : Config) (fanIn : UInt16) (solver : Option String) (log : Option Path)
    (stripesAfter : Nat) (stats : Stats) : Report where
  code := config.code
  cluster := config.cluster
  fanIn
  approach := config.approach
  solver
  managed := config.managed
  blockSize := config.blockSize
  stripesAfter := UInt64.ofNat stripesAfter
  blocks := stats
  solverMilliseconds := 0
  milliseconds := 0
  artifacts := artifacts config log

/-- Reconcile the artifacts of a solver and write the new block mapping. -/
def finish (host : Host) (config : Config) (fanIn : UInt16) (before : ProvenanceTable)
    (solver : Option String) (log : Option Path) : Disk Report := do
  let placement ← loadRows config config.locations.postPlacementPath config.code.widthAfter
    (← config.cluster.stripesAfter fanIn)
  let groups ← StripeGroup.load (← StripeGroupShape.ofCode config.code config.cluster.nodes)
    config.locations.stripeGroupsPath
  let result ← reconcile host.processors (input config before placement groups)
  result.table.save config.locations.postBlockMappingPath
  return report config fanIn solver log groups.length result.stats

/-- What a transition reads before its solver is asked: its fan-in, and the provenance before it. -/
def prepare (config : Config) : Disk (UInt16 × ProvenanceTable) := do
  let fanIn ← config.validate
  let _ ← loadRows config config.locations.prePlacementPath config.code.widthBefore
    config.cluster.stripes
  let before ← loadBefore config
  return (fanIn, before)

/-- Have a solver decide about the new stripes, and reconcile its artifacts. -/
def run (host : Host) (config : Config) (solver : TransitionSolver) : Disk Report := do
  let (fanIn, before) ← prepare config
  let log ← solver.solve (request config)
  finish host config fanIn before (some solver.name) log

end Transition

/-- Have the solver of this library or an outside program decide about the new stripes, and
reconcile its artifacts. -/
def runTransition (host : Host) (config : Config) (solver : Solver) : Disk Report :=
  Transition.run host config (solver.transitionSolver host)

/-- Reconcile the artifacts that a solver has left. -/
def reconcileArtifacts (host : Host) (config : Config) : Disk Report := do
  let fanIn ← config.validate
  let before ← Transition.loadBefore config
  Transition.finish host config fanIn before none none

def Report.save (report : Report) (path : Path) : Disk Unit :=
  match report.toJson? with
  | some text => writeAtomic path (Utf8.encode (text ++ ['\n']))
  | none => throw (.internal .unwritableReport)

end Restripe
