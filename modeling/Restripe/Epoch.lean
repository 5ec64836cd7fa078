import Restripe.Config
import Restripe.Datum.Block
import Restripe.Metadata.Store
import Restripe.Random

/-!
# Beginning an epoch

A new epoch is a random placement and the provenance that follows from it, each in its file.
-/

/-! ## Summaries of a new epoch -/

namespace Restripe

/-- What was written for a new epoch. -/
structure EpochSummary where
  stripes : UInt64
  blocks : UInt64
  seed : UInt64
  prePlacement : Path
  preBlockMapping : Path
  deriving DecidableEq, Repr

namespace EpochSummary

def toDatum? (summary : EpochSummary) : Option Datum := do
  return .record [
    ("stripes", .natural summary.stripes.toNat),
    ("blocks", .natural summary.blocks.toNat),
    ("seed", .natural summary.seed.toNat),
    ("pre_placement", ← summary.prePlacement.toDatum?),
    ("pre_block_mapping", ← summary.preBlockMapping.toDatum?)]

def ofDatum? (datum : Datum) : Option EpochSummary := do
  match ← datum.slots? Json.dialect [["stripes"], ["blocks"], ["seed"], ["pre_placement"],
      ["pre_block_mapping"]] with
  | [stripes, blocks, seed, prePlacement, preBlockMapping] =>
      return {
        stripes := ← stripes.required Datum.uint64?
        blocks := ← blocks.required Datum.uint64?
        seed := ← seed.required Datum.uint64?
        prePlacement := ← prePlacement.required Path.ofDatum?
        preBlockMapping := ← preBlockMapping.required Path.ofDatum? }
  | _ => none

end EpochSummary

/-!
## The placement of a new epoch

Every stripe of a new epoch goes to a random sample of the nodes.  One stream of random words serves
all stripes, so a seed fixes the whole placement.
-/

namespace Placement

/-- Draw the rows of `count` stripes of `width` blocks each. -/
def drawRows (nodes width : Nat) : (count : Nat) → Random.Draw Placement
  | 0 => pure []
  | count + 1 => do
      let row ← Random.sample nodes width
      return row.map UInt16.ofNat :: (← drawRows nodes width count)

/-- The placement that a seed gives to the stripes of a cluster, where each draw is tried at most
`limit` times. -/
def generateWithin (limit : Nat) (code : Code) (cluster : Cluster) (seed : UInt64) :
    Except Error Placement :=
  let width := code.dataBefore.toNat + code.parityBefore.toNat
  if code.dataBefore = 0 ∨ code.parityBefore = 0 then
    throw (.config (.zeroInitialParameter code.dataBefore code.parityBefore))
  else if UInt16.size ≤ width then
    throw (.config (.initialWidthOverflow code.dataBefore code.parityBefore))
  else if cluster.nodes.toNat < width then
    throw (.config (.narrowPlacement cluster.nodes (UInt16.ofNat width)))
  else
    ((drawRows cluster.nodes.toNat width cluster.stripes.toNat).run limit).run' (.ofSeed seed)

/-- The placement that a seed gives to the stripes of a cluster. -/
def generate (code : Code) (cluster : Cluster) (seed : UInt64) : Except Error Placement :=
  generateWithin Random.maxTries code cluster seed

end Placement

/-!
## The provenance of a new epoch

In a new epoch every block is a file named for the block in the directory of its node, so the
provenance follows from the placement.
-/

def initialEntry (dataDirectory : Path) (stripe : StripeId) (node : NodeId) (index : Nat) :
    Except Error Entry := do
  let key : BlockKey := ⟨stripe, ← blockAt index⟩
  return ⟨key, node, .stored (initialBlockPath dataDirectory node key)⟩

def initialRow (dataDirectory : Path) (nodes : List NodeId) (index : Nat) :
    Except Error (List Entry) := do
  let stripe ← stripeAt index
  nodes.zipIdx.mapM fun (node, block) => initialEntry dataDirectory stripe node block

def initialEntries (dataDirectory : Path) (placement : Placement) : Except Error (List Entry) := do
  return (← placement.zipIdx.mapM fun (nodes, index) =>
    initialRow dataDirectory nodes index).flatten

/-- The provenance table of a new epoch. -/
def initialProvenance (dataDirectory : Path) (placement : Placement) :
    Except Error ProvenanceTable := do
  (← initialEntries dataDirectory placement).foldlM ProvenanceTable.insert .empty

/-! ## Both in their files -/

/-- Begin the epoch that a configuration describes. -/
def beginEpoch (config : Config) : Disk EpochSummary := do
  let _ ← config.validate
  let placement ← Placement.generate config.code config.cluster config.solver.seed
  let table ← initialProvenance config.locations.dataDirectory placement
  Placement.save placement config.locations.prePlacementPath
  table.save config.locations.preBlockMappingPath
  return {
    stripes := UInt64.ofNat placement.length
    blocks := UInt64.ofNat table.size
    seed := config.solver.seed
    prePlacement := config.locations.prePlacementPath
    preBlockMapping := config.locations.preBlockMappingPath }

end Restripe
