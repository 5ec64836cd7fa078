import Restripe.Config
import Restripe.Datum.Block
import Restripe.Datum.Toml.Reader
import Restripe.Datum.Toml.Writer
import Restripe.FileSystem.Disk

/-!
# Configuration files

A configuration is kept as TOML.  What is relative in a file is relative to the directory that the
file lies in.
-/

/-!
## Configurations as data

A configuration has three sections.  Some fields go by an older name as well, most have a default,
and the sections on locations and on the solver may be missing.
-/

namespace Restripe

/-- The text of a path, under the name of a field. -/
def pathMember? (name : String) (path : Path) : Option (String × Datum) :=
  path.toDatum?.map (name, ·)

namespace Locations

def toMembers? (locations : Locations) : Option (List (String × Datum)) :=
  [pathMember? "metadata_dir" locations.metadataDirectory,
    pathMember? "data_dir" locations.dataDirectory,
    pathMember? "pre_placement" locations.prePlacement,
    pathMember? "pre_block_mapping" locations.preBlockMapping,
    pathMember? "post_placement" locations.postPlacement,
    pathMember? "post_block_mapping" locations.postBlockMapping,
    pathMember? "stripe_group_meta" locations.stripeGroups,
    pathMember? "solver_log" locations.solverLog].mapM id

def ofDatum? (dialect : Dialect) (datum : Datum) : Option Locations := do
  let path (byDefault : Path) : Slot → Option Path := Slot.withDefault byDefault Path.ofDatum?
  let usual : Locations := {}
  match ← datum.slots? dialect [["metadata_dir"], ["data_dir"], ["pre_placement"],
      ["pre_block_mapping"], ["post_placement"], ["post_block_mapping"],
      ["stripe_group_meta", "sg_meta"], ["solver_log"]] with
  | [metadataDirectory, dataDirectory, prePlacement, preBlockMapping, postPlacement,
      postBlockMapping, stripeGroups, solverLog] =>
      return {
        metadataDirectory := ← path usual.metadataDirectory metadataDirectory
        dataDirectory := ← path usual.dataDirectory dataDirectory
        prePlacement := ← path usual.prePlacement prePlacement
        preBlockMapping := ← path usual.preBlockMapping preBlockMapping
        postPlacement := ← path usual.postPlacement postPlacement
        postBlockMapping := ← path usual.postBlockMapping postBlockMapping
        stripeGroups := ← path usual.stripeGroups stripeGroups
        solverLog := ← path usual.solverLog solverLog }
  | _ => none

end Locations

namespace SolverSettings

/-- A field that is left out where there is no path. -/
def optionalMember? (name : String) : Option Path → Option (List (String × Datum))
  | none => some []
  | some path => (pathMember? name path).map ([·])

def toMembers? (settings : SolverSettings) : Option (List (String × Datum)) := do
  return (← optionalMember? "program" settings.program)
    ++ (← optionalMember? "working_dir" settings.workingDirectory)
    ++ [("workers", .natural settings.workers.toNat), ("seed", .natural settings.seed.toNat)]

def ofDatum? (dialect : Dialect) (datum : Datum) : Option SolverSettings := do
  let path : Slot → Option (Option Path) := Slot.withDefault none (Slot.nullable Path.ofDatum?)
  match ← datum.slots? dialect [["program"], ["working_dir"], ["workers"], ["seed"]] with
  | [program, workingDirectory, workers, seed] =>
      return {
        program := ← path program
        workingDirectory := ← path workingDirectory
        workers := ← workers.withDefault 0 Datum.uint64?
        seed := ← seed.withDefault 0 Datum.uint64? }
  | _ => none

end SolverSettings

namespace Config

/-- The section on the code, the cluster and the blocks. -/
def commonMembers (config : Config) : List (String × Datum) :=
  [("k_pre", .natural config.code.dataBefore.toNat),
    ("m_pre", .natural config.code.parityBefore.toNat),
    ("k_post", .natural config.code.dataAfter.toNat),
    ("m_post", .natural config.code.parityAfter.toNat),
    ("num_nodes", .natural config.cluster.nodes.toNat),
    ("num_stripes", .natural config.cluster.stripes.toNat),
    ("approach", config.approach.toDatum),
    ("managed_fs", .bool config.managed),
    ("block_size", .natural config.blockSize.toNat)]

/-- The configuration that the section on the code, the cluster and the blocks gives alone. -/
def ofCommon? (dialect : Dialect) (datum : Datum) : Option Config := do
  match ← datum.slots? dialect [["k_pre", "k_i"], ["m_pre", "m_i"], ["k_post", "k_f"],
      ["m_post", "m_f"], ["num_nodes"], ["num_stripes"], ["approach"],
      ["managed_fs", "enable_hdfs"], ["block_size"]] with
  | [dataBefore, parityBefore, dataAfter, parityAfter, nodes, stripes, approach, managed,
      blockSize] =>
      return {
        code := {
          dataBefore := ← dataBefore.required Datum.uint16?
          parityBefore := ← parityBefore.required Datum.uint16?
          dataAfter := ← dataAfter.required Datum.uint16?
          parityAfter := ← parityAfter.required Datum.uint16? }
        cluster := {
          nodes := ← nodes.required Datum.uint16?
          stripes := ← stripes.required Datum.uint32? }
        approach := ← approach.required (Approach.ofDatum? dialect)
        managed := ← managed.withDefault false Datum.bool?
        blockSize := ← blockSize.withDefault 1048576 Datum.uint64? }
  | _ => none

/-- The sections of a configuration; there are none for a path that is no text. -/
def toSections? (config : Config) : Option (List (String × List (String × Datum))) := do
  return [("common", config.commonMembers), ("paths", ← config.locations.toMembers?),
    ("solver", ← config.solver.toMembers?)]

def toDatum? (config : Config) : Option Datum := do
  return .record ((← config.toSections?).map fun (name, members) => (name, .record members))

def ofDatum? (dialect : Dialect) (datum : Datum) : Option Config := do
  match ← datum.slots? dialect [["common"], ["paths"], ["solver"]] with
  | [common, locations, solver] =>
      return { ← common.required (ofCommon? dialect) with
        locations := ← locations.withDefault {} (Locations.ofDatum? dialect)
        solver := ← solver.withDefault {} (SolverSettings.ofDatum? dialect) }
  | _ => none

end Config

end Restripe

/-! ## Reading and writing -/

namespace Restripe.Config

/-- The configuration that a TOML text holds. -/
def ofToml (text : Text) : Except Error Config :=
  match Toml.parse? text >>= ofDatum? Toml.dialect with
  | some config => pure config
  | none => throw (.config .invalidToml)

def toToml (config : Config) : Except Error Text :=
  match config.toSections? >>= Toml.writeSections? with
  | some text => pure text
  | none => throw (.internal .unwritableConfig)

def load (path : Path) : Disk Config := do
  match Utf8.decode? (← Disk.read path) with
  | none => throw (.io .notText)
  | some text =>
      let config ← ofToml text
      match path.parent? with
      | some parent => return config.rebase parent
      | none => return config

end Restripe.Config
