import Restripe.Datum.Block
import Restripe.Datum.Json.Writer
import Restripe.Error
import Restripe.Reconcile.Stripe

/-!
# Transition reports

A report says what a transition was asked to do, what became of the blocks, and which files were
read and written.  It is kept as indented JSON.
-/

namespace Restripe

/-- The files that a transition read and wrote. -/
structure ReportArtifacts where
  prePlacement : Path
  /-- Not read where an outside catalog knows the blocks. -/
  preBlockMapping : Option Path
  postPlacement : Path
  stripeGroups : Path
  postBlockMapping : Path
  solverLog : Option Path
  deriving DecidableEq, Repr

/-- The outcome of a transition. -/
structure Report where
  code : Code
  cluster : Cluster
  fanIn : UInt16
  approach : Approach
  /-- The solver that ran, if one did. -/
  solver : Option String
  managed : Bool
  /-- Bytes of a block. -/
  blockSize : UInt64
  stripesAfter : UInt64
  blocks : Stats
  solverMilliseconds : UInt64
  milliseconds : UInt64
  artifacts : ReportArtifacts
  deriving DecidableEq, Repr

def optionalPathDatum? : Option Path → Option Datum
  | none => some .null
  | some path => path.toDatum?

namespace ReportArtifacts

def toDatum? (artifacts : ReportArtifacts) : Option Datum := do
  return .record [
    ("pre_placement", ← artifacts.prePlacement.toDatum?),
    ("pre_block_mapping", ← optionalPathDatum? artifacts.preBlockMapping),
    ("post_placement", ← artifacts.postPlacement.toDatum?),
    ("stripe_group_meta", ← artifacts.stripeGroups.toDatum?),
    ("post_block_mapping", ← artifacts.postBlockMapping.toDatum?),
    ("solver_log", ← optionalPathDatum? artifacts.solverLog)]

def ofDatum? (datum : Datum) : Option ReportArtifacts := do
  match ← datum.slots? Json.dialect [["pre_placement"], ["pre_block_mapping"], ["post_placement"],
      ["stripe_group_meta"], ["post_block_mapping"], ["solver_log"]] with
  | [prePlacement, preBlockMapping, postPlacement, stripeGroups, postBlockMapping, solverLog] =>
      return {
        prePlacement := ← prePlacement.required Path.ofDatum?
        preBlockMapping := ← preBlockMapping.optional Path.ofDatum?
        postPlacement := ← postPlacement.required Path.ofDatum?
        stripeGroups := ← stripeGroups.required Path.ofDatum?
        postBlockMapping := ← postBlockMapping.required Path.ofDatum?
        solverLog := ← solverLog.optional Path.ofDatum? }
  | _ => none

end ReportArtifacts

namespace Report

def toDatum? (report : Report) : Option Datum := do
  return .record [
    ("code", report.code.toDatum),
    ("settings", report.cluster.toDatum),
    ("lambda", .natural report.fanIn.toNat),
    ("approach", report.approach.toDatum),
    ("solver", Datum.ofOption (report.solver.map .text)),
    ("managed_fs", .bool report.managed),
    ("block_size", .natural report.blockSize.toNat),
    ("post_stripes", .natural report.stripesAfter.toNat),
    ("blocks", report.blocks.toDatum),
    ("solver_elapsed_ms", .natural report.solverMilliseconds.toNat),
    ("elapsed_ms", .natural report.milliseconds.toNat),
    ("artifacts", ← report.artifacts.toDatum?)]

def ofDatum? (datum : Datum) : Option Report := do
  match ← datum.slots? Json.dialect [["code"], ["settings"], ["lambda"], ["approach"], ["solver"],
      ["managed_fs"], ["block_size"], ["post_stripes"], ["blocks"], ["solver_elapsed_ms"],
      ["elapsed_ms"], ["artifacts"]] with
  | [code, cluster, fanIn, approach, solver, managed, blockSize, stripesAfter, blocks,
      solverMilliseconds, milliseconds, artifacts] =>
      return {
        code := ← code.required Code.ofDatum?
        cluster := ← cluster.required Cluster.ofDatum?
        fanIn := ← fanIn.required Datum.uint16?
        approach := ← approach.required (Approach.ofDatum? Json.dialect)
        solver := ← solver.optional Datum.text?
        managed := ← managed.required Datum.bool?
        blockSize := ← blockSize.required Datum.uint64?
        stripesAfter := ← stripesAfter.required Datum.uint64?
        blocks := ← blocks.required Stats.ofDatum?
        solverMilliseconds := ← solverMilliseconds.required Datum.uint64?
        milliseconds := ← milliseconds.required Datum.uint64?
        artifacts := ← artifacts.required ReportArtifacts.ofDatum? }
  | _ => none

/-- The indented JSON text of a report; there is none for a path that is no text. -/
def toJson? (report : Report) : Option Text :=
  report.toDatum?.map Json.pretty

/-- The report that a JSON text holds. -/
def ofJson? (text : Text) : Option Report :=
  Json.parse? text >>= ofDatum?

/-- Data blocks that were carried over, if that many can be counted. -/
def dataBlocks (report : Report) : Except Error UInt64 :=
  let total := report.blocks.retained.toNat + report.blocks.relocated.toNat
  if total < UInt64.size then pure (UInt64.ofNat total) else throw (.fault .overflow)

/-- Bytes that go from node to node, no more than can be counted. -/
def relocatedBytes (report : Report) : UInt64 :=
  let total := report.blocks.relocated.toNat * report.blockSize.toNat
  UInt64.ofNat (min total (UInt64.size - 1))

end Report

end Restripe
