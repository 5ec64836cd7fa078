import Restripe.Config
import Restripe.Metadata.Store
import Restripe.Plan
import Restripe.Solver.External

/-!
# Solvers

A transition knows a solver by its name and by what it does when it is asked.  The solver that is
asked is the one of this library or an outside program.
-/

/-!
## The solver of this library

The solver of this library reads the placement, plans the transition and writes both artifacts.
-/

namespace Restripe.SolveRequest

def planLog (request : SolveRequest) (before after : Placement) (retained : Nat) : String :=
  let code := request.code
  s!"sequential solver: ({code.dataBefore}, {code.parityBefore}) -> "
    ++ s!"({code.dataAfter}, {code.parityAfter}), nodes {request.cluster.nodes}, "
    ++ s!"pre stripes {before.length}, approach {request.approach.name}\n"
    ++ s!"post stripes {after.length}, data blocks kept in place {retained}, elapsed 0 us\n"

/-- Plan what is asked, and write it down. -/
def solveInProcess (request : SolveRequest) : Disk Unit := do
  let before ← Placement.load ⟨request.code.widthBefore, request.cluster.nodes⟩ request.prePlacement
  let groups ← planTransition request.code request.cluster.nodes request.approach before
  let after := StripeGroup.placement groups
  Placement.save after request.postPlacement
  StripeGroup.save groups request.stripeGroups
  let retained ← Plan.countRetained request.code before after
  if let some log := request.log then
    Disk.makeParents log
    Disk.write log (Bytes.ofString (request.planLog before after retained))

end Restripe.SolveRequest

/-! ## Solvers as a transition knows them -/

namespace Restripe

/-- A solver as a transition knows it; what it does gives the log that it has kept, if any. -/
structure TransitionSolver where
  name : String
  solve : SolveRequest → Disk (Option Path)

/-- What solves. -/
inductive Solver where
  | inProcess
  | external (solver : ExternalSolver)
  deriving DecidableEq, Repr

namespace Solver

/-- The name of a solver in a report: that of its program, if it is text. -/
def name : Solver → String
  | .inProcess => "sequential"
  | .external solver =>
      match solver.program.fileName? >>= Utf8.decode? with
      | some name => String.ofList name
      | none => "external"

def solve (solver : Solver) (host : Host) (request : SolveRequest) : Disk Unit :=
  match solver with
  | .inProcess => request.solveInProcess
  | .external solver => solver.solve host request

/-- The solver as a transition knows it. -/
def transitionSolver (solver : Solver) (host : Host) : TransitionSolver where
  name := solver.name
  solve request := do
    solver.solve host request
    return request.log

end Solver

/-- The solver that a configuration names. -/
def SolverSettings.solver (settings : SolverSettings) : Solver :=
  match settings.program with
  | none => .inProcess
  | some program => .external ⟨program, [], settings.workingDirectory⟩

end Restripe
