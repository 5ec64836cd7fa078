import Restripe.Reconcile.Stripe

/-!
# Reconciliation

A reconciliation checks its input, reconciles every stripe, and puts the entries of all blocks into
one table.  The counters of the stripes are added up.
-/

/-!
## Agreement of the artifacts

Before any stripe is reconciled, the stripe groups have to agree with the placement, and together
they have to consume every old stripe exactly once.  The groups are checked in order, so the
mismatch that is reported is that of the first group that has one.
-/

namespace Restripe.Reconciliation

/-- Consume the contributing stripes of the group at `index`, after those that are consumed
already. -/
def consume (stripes : UInt32) (index : Nat) (consumed : List StripeId) :
    List StripeId → Except Error (List StripeId)
  | [] => pure consumed
  | stripe :: contributing =>
      if stripes ≤ stripe then
        throw (.artifactMismatch (.unknownStripe index stripe stripes))
      else if consumed.contains stripe then
        throw (.artifactMismatch (.consumedTwice stripe index))
      else
        consume stripes index (stripe :: consumed) contributing

/-- Check the group at `index` against its row of the placement. -/
def checkGroup (fanIn width index : Nat) (group : StripeGroup) (row : List NodeId) :
    Except Error Unit :=
  if group.contributing.length ≠ fanIn ∨ group.nodes.length ≠ width then
    throw (.artifactMismatch
      (.groupShape index group.contributing.length group.nodes.length fanIn width))
  else if group.nodes ≠ row then
    throw (.artifactMismatch (.nodesDiffer index))
  else
    pure ()

/-- Check the groups from `index` on against their rows; gives the stripes that are consumed. -/
def checkGroups (stripes : UInt32) (fanIn width : Nat) :
    (index : Nat) → (consumed : List StripeId) → List (StripeGroup × List NodeId) →
      Except Error (List StripeId)
  | _, consumed, [] => pure consumed
  | index, consumed, (group, row) :: rest => do
      checkGroup fanIn width index group row
      let consumed ← consume stripes index consumed group.contributing
      checkGroups stripes fanIn width (index + 1) consumed rest

def checkArtifacts (input : Reconciliation) (fanIn : UInt16) : Except Error Unit := do
  let expected := (← input.cluster.stripesAfter fanIn).toNat
  if input.groups.length ≠ input.placement.length then
    throw (.artifactMismatch (.rowCount input.groups.length input.placement.length))
  if input.groups.length ≠ expected then
    throw (.artifactMismatch (.groupCount input.groups.length expected input.cluster.stripes))
  let _ ← checkGroups input.cluster.stripes fanIn.toNat input.code.widthAfter.toNat 0 []
    (input.groups.zip input.placement)

/-!
## Sharing the stripes among workers

Stripes do not depend on each other, so several workers may share them: each takes a run of adjacent
stripes and stops at the first that fails.  The results are joined in the order of the runs, so the
outcome is that of one worker.
-/

/-- How many workers share the stripes, where `available` could run at once. -/
def effectiveWorkers (requested available stripes : Nat) : Nat :=
  max (min (if requested = 0 then available else requested) stripes) 1

/-- Reconcile the stripes of groups from `first` on. -/
def reconcileFrom (input : Reconciliation) (first : Nat) (groups : List StripeGroup) :
    Except Error (List StripeOutcome) :=
  (groups.zipIdx first).mapM fun (group, index) => reconcileStripe input group index

/-- The run of a worker: the stripes of its groups, counted from the first one on. -/
def reconcileRun (input : Reconciliation) (first : Nat) (groups : List StripeGroup) :
    Except Error (List StripeOutcome) :=
  groups.zipIdx.mapM fun (group, offset) => do reconcileStripe input group (← word (first + offset))

/-- What a worker hands over; a fault stops it without a result. -/
def handOver : Except Error α → Except Error α
  | .error (.fault _) => .error (.internal .workerStopped)
  | result => result

/-- Reconcile all stripes with several workers. -/
def reconcileShared (input : Reconciliation) (workers : Nat) :
    Except Error (List StripeOutcome) := do
  let length ← divideUp input.groups.length workers
  let parts ← chunks length input.groups
  let runs ← parts.zipIdx.mapM fun (part, index) => return (part, ← word (index * length))
  let results := runs.map fun (part, first) => reconcileRun input first part
  return (← results.mapM handOver).flatten

def reconcileStripes (available : Nat) (input : Reconciliation) :
    Except Error (List StripeOutcome) :=
  let workers := effectiveWorkers input.workers.toNat available input.groups.length
  if workers ≤ 1 then reconcileFrom input 0 input.groups else reconcileShared input workers

end Restripe.Reconciliation

/-! ## All stripes -/

namespace Restripe

/-- The table after a transition, and what it took. -/
structure Reconciled where
  table : ProvenanceTable
  stats : Stats
  deriving DecidableEq

namespace Reconciliation

/-- The counters of all stripes, added up stripe by stripe. -/
def stats (stripes : List StripeOutcome) : Except Error Stats :=
  stripes.foldlM (fun stats stripe => do stats.absorb (← Stats.tally stripe.counts)) .zero

/-- The table of all entries. -/
def table (stripes : List StripeOutcome) : Except Error ProvenanceTable :=
  (stripes.flatMap fun stripe => stripe.blocks.map BlockOutcome.entry).foldlM
    ProvenanceTable.insert .empty

end Reconciliation

/-- Reconcile; `available` workers could run at once. -/
def reconcile (available : Nat) (input : Reconciliation) : Except Error Reconciled := do
  let fanIn ← input.cluster.validate input.code
  input.checkArtifacts fanIn
  let stripes ← input.reconcileStripes available
  let stats ← Reconciliation.stats stripes
  return ⟨← Reconciliation.table stripes, stats⟩

end Restripe
