import Restripe.Code
import Restripe.OperatingSystem
import Restripe.Text.Quoted

/-!
# Errors

Every failure is a value that says what is wrong and where; its wording, its short code, its exit
code and the advice that goes with it are functions of that value.  A fault is a step of a
computation that has no value, such as a division by zero: it ends the run.
-/

namespace Restripe

/-- A field of a metadata row. -/
inductive Field where
  | nodeId
  | stripeId
  | blockIndex
  | contributingStripe
  | encodeMethod
  deriving DecidableEq, Repr

def Field.name : Field → String
  | .nodeId => "node id"
  | .stripeId => "stripe id"
  | .blockIndex => "block index"
  | .contributingStripe => "pre-stripe id"
  | .encodeMethod => "encode method"

/-- What is wrong with a line of a metadata file. -/
inductive Malformed where
  | notText
  | blankLine
  | invalidField (field : Field) (token : Text) (column : Nat)
  | nodeOutside (node : NodeId) (column : Nat) (limit : UInt16)
  | nodeCount (expected actual : Nat)
  | entryFieldCount (expected actual : Nat)
  | groupFieldCount (fanIn width expected actual : Nat)
  | unknownMethod (id : UInt8)
  | invalidPending (token : Text)
  | duplicateEntry (key : BlockKey)
  | stripeCount (expected actual : Nat)
  | other (words : String)
  deriving DecidableEq, Repr

def Malformed.message : Malformed → String
  | .notText => "invalid UTF-8"
  | .blankLine => "blank line"
  | .invalidField field token column =>
      s!"invalid {field.name} '{String.ofList token}' at column {column}"
  | .nodeOutside node column limit =>
      s!"node id {node} at column {column} is outside [0, {limit})"
  | .nodeCount expected actual => s!"expected {expected} node ids, got {actual}"
  | .entryFieldCount expected actual => s!"expected {expected} fields, got {actual}"
  | .groupFieldCount fanIn width expected actual =>
      s!"expected {expected} fields (lambda {fanIn} + method + width {width}), got {actual}"
  | .unknownMethod id => s!"unknown encode method {id}"
  | .invalidPending token => s!"invalid pending location '{String.ofList token}'"
  | .duplicateEntry key => s!"duplicate entry for stripe {key.stripe} block {key.block}"
  | .stripeCount expected actual => s!"expected {expected} stripes, found {actual}"
  | .other words => words

/-- What is wrong with a configuration. -/
inductive Misconfigured where
  | zeroParameter (code : Code)
  | fractionalFanIn (dataAfter dataBefore : UInt16)
  | widthOverflow
  | emptyCluster (cluster : Cluster)
  | narrowCluster (nodes width : UInt16)
  | unevenStripes (stripes : UInt32) (fanIn : UInt16)
  | zeroBlockSize
  | unknownApproach (name : String)
  | invalidToml
  | zeroInitialParameter (data parity : UInt16)
  | initialWidthOverflow (data parity : UInt16)
  | narrowPlacement (nodes width : UInt16)
  | other (words : String)
  deriving DecidableEq, Repr

def Misconfigured.message : Misconfigured → String
  | .zeroParameter code =>
      s!"coding parameters must be non-zero: ({code.dataBefore}, {code.parityBefore}) -> "
        ++ s!"({code.dataAfter}, {code.parityAfter})"
  | .fractionalFanIn dataAfter dataBefore =>
      s!"k_post {dataAfter} is not a multiple of k_pre {dataBefore}"
  | .widthOverflow => "stripe width overflows u16"
  | .emptyCluster cluster =>
      s!"num_nodes ({cluster.nodes}) and num_stripes ({cluster.stripes}) must be non-zero"
  | .narrowCluster nodes width =>
      s!"num_nodes {nodes} cannot hold a stripe of width {width} on distinct nodes"
  | .unevenStripes stripes fanIn => s!"num_stripes {stripes} is not a multiple of lambda {fanIn}"
  | .zeroBlockSize => "block_size must be non-zero"
  | .unknownApproach name =>
      s!"unknown transition approach '{name}' (expected one of "
        ++ String.intercalate "/" (Approach.all.map Approach.name) ++ ")"
  | .invalidToml => "invalid TOML config"
  | .zeroInitialParameter data parity =>
      s!"pre-transition code ({data}, {parity}) must have non-zero k and m"
  | .initialWidthOverflow data parity =>
      s!"pre-transition stripe width {data} + {parity} overflows u16"
  | .narrowPlacement nodes width =>
      s!"{nodes} nodes cannot hold a stripe of width {width} on distinct nodes"
  | .other words => words

/-- How the artifacts of a solver disagree with each other or with the stripes they are made of. -/
inductive Mismatch where
  | rowCount (groups rows : Nat)
  | groupCount (groups expected : Nat) (stripes : UInt32)
  | groupShape (group contributing nodes fanIn width : Nat)
  | nodesDiffer (group : Nat)
  | unknownStripe (group : Nat) (stripe : StripeId) (stripes : UInt32)
  | consumedTwice (stripe : StripeId) (group : Nat)
  | unnamedFile (path : Path) (source : BlockKey)
  | other (words : String)
  deriving DecidableEq, Repr

def Mismatch.message : Mismatch → String
  | .rowCount groups rows => s!"{groups} stripe-group records but {rows} post placement rows"
  | .groupCount groups expected stripes =>
      s!"{groups} stripe-group records, expected {expected} for {stripes} pre-transition stripes"
  | .groupShape group contributing nodes fanIn width =>
      s!"stripe group {group} has {contributing} contributing stripes and {nodes} nodes, "
        ++ s!"expected {fanIn} and {width}"
  | .nodesDiffer group =>
      s!"stripe group {group} assigns nodes that differ from post placement row {group}"
  | .unknownStripe group stripe stripes =>
      s!"stripe group {group} names pre-transition stripe {stripe}, only {stripes} exist"
  | .consumedTwice stripe group =>
      s!"pre-transition stripe {stripe} is consumed more than once (again by group {group})"
  | .unnamedFile path source =>
      s!"pre-transition location '{path.display}' of {source.display} names no file"
  | .other words => words

/-- An artifact that a solver has to write. -/
inductive Artifact where
  | postPlacement
  | stripeGroups
  deriving DecidableEq, Repr

def Artifact.name : Artifact → String
  | .postPlacement => "post placement"
  | .stripeGroups => "stripe-group metadata"

/-- Why a solver gives no result. -/
inductive SolverFault where
  | tooFewNodes (nodes width : UInt16)
  | unevenGroups (stripes fanIn : Nat)
  | missingBlock (position : UInt16) (block : BlockIndex)
  | nodeOutside (node : NodeId)
  | notStarted (program : Path) (fault : IoFault)
  | failed (program : Path) (status : ExitStatus) (diagnostics : Text)
  | missingOutput (artifact : Artifact) (path : Path)
  | other (words : String)
  deriving DecidableEq, Repr

def SolverFault.message : SolverFault → String
  | .tooFewNodes nodes width =>
      s!"{nodes} nodes cannot hold a post-transition stripe of width {width}"
  | .unevenGroups stripes fanIn =>
      s!"{stripes} pre-transition stripes do not form whole groups of {fanIn}"
  | .missingBlock position block =>
      s!"pre-transition stripe at group position {position} lacks block {block}"
  | .nodeOutside node => s!"pre-transition node {node} outside cluster"
  | .notStarted program fault => s!"failed to spawn '{program.display}': {fault.message}"
  | .failed program status diagnostics =>
      s!"'{program.display}' exited with {status.display}: {String.ofList diagnostics}"
  | .missingOutput artifact path =>
      s!"solver exited successfully but did not write {artifact.name} at '{path.display}'"
  | .other words => words

/-- What should never happen. -/
inductive InternalFault where
  | stripeIndex (index : Nat)
  | blockIndex (index : Nat)
  | duplicateEntry (key : BlockKey)
  | unwritableLocation (key : BlockKey) (path : Path)
  | outOfNodes
  | workerStopped
  | unwritableConfig
  | unwritableReport
  | other (words : String)
  deriving DecidableEq, Repr

def InternalFault.message : InternalFault → String
  | .stripeIndex index => s!"stripe index {index} exceeds u32"
  | .blockIndex index => s!"block index {index} exceeds u16"
  | .duplicateEntry key => s!"duplicate provenance entry for {key.display}"
  | .unwritableLocation key path =>
      s!"location for {key.display} cannot be written as a single token: "
        ++ s!"Local({String.ofList (Quoted.quote path.bytes)})"
  | .outOfNodes => "ran out of free nodes during assignment"
  | .workerStopped => "reconciler worker panicked"
  | .unwritableConfig => "config serialization failed"
  | .unwritableReport => "report serialization failed: path contains invalid UTF-8 characters"
  | .other words => words

/-- A step that has no value. -/
inductive Fault where
  | divisionByZero
  | overflow
  | outOfBounds
  | emptyChunk
  /-- Drawing a random number was tried too often. -/
  | tooManyDraws
  deriving DecidableEq, Repr

def Fault.message : Fault → String
  | .divisionByZero => "division by zero"
  | .overflow => "arithmetic overflow"
  | .outOfBounds => "index out of bounds"
  | .emptyChunk => "chunk size of zero"
  | .tooManyDraws => "too many random draws"

/-- Why a run gives no result. -/
inductive Error where
  /-- A metadata file is malformed, at a line counted from one. -/
  | parse (path : Path) (line : Nat) (cause : Malformed)
  /-- A data block comes from a block that no location is known of. -/
  | missingProvenance (source : BlockKey)
  | artifactMismatch (cause : Mismatch)
  | config (cause : Misconfigured)
  | solver (cause : SolverFault)
  | io (cause : IoFault)
  | internal (cause : InternalFault)
  | fault (cause : Fault)
  deriving DecidableEq, Repr

namespace Error

def message : Error → String
  | .parse path line cause => s!"parse error in '{path.display}' line {line}: {cause.message}"
  | .missingProvenance source =>
      s!"no pre-transition provenance for stripe {source.stripe} block {source.block}"
  | .artifactMismatch cause => s!"solver artifacts disagree: {cause.message}"
  | .config cause => s!"invalid configuration: {cause.message}"
  | .solver cause => s!"solver failure: {cause.message}"
  | .io cause => s!"I/O error: {cause.message}"
  | .internal cause => s!"internal error: {cause.message}"
  | .fault cause => s!"fault: {cause.message}"

/-- A stable short name of the kind of error. -/
def code : Error → String
  | .parse .. => "parse"
  | .missingProvenance _ => "missing_provenance"
  | .artifactMismatch _ => "artifact_mismatch"
  | .config _ => "config"
  | .solver _ => "solver_failure"
  | .io _ => "io"
  | .internal _ => "internal"
  | .fault _ => "fault"

def exitCode : Error → UInt8
  | .config _ => 2
  | .parse .. | .missingProvenance _ | .artifactMismatch _ => 3
  | .solver _ => 4
  | .io _ => 5
  | .internal _ => 70
  | .fault _ => 101

/-- Whether a malformed or inconsistent input file is to blame. -/
def isInput : Error → Bool
  | .parse .. | .missingProvenance _ | .artifactMismatch _ => true
  | _ => false

/-- Whether the configuration is to blame. -/
def isConfig : Error → Bool
  | .config _ => true
  | _ => false

/-- Advice on how to mend the cause, where there is any. -/
def suggestion? : Error → Option String
  | .config _ =>
      some "k_post must be a multiple of k_pre and num_stripes a multiple of k_post / k_pre"
  | .missingProvenance _ =>
      some "Regenerate the pre-transition block mapping from the pre placement"
  | .solver _ => some "Inspect the solver execution log"
  | _ => none

end Error

end Restripe
