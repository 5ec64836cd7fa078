import Restripe.Datum.Json.Reader
import Restripe.Metadata.Provenance

/-!
# Reconciling a stripe

A data block of a new stripe is carried over: it keeps the name of its file and goes to the
directory of its new node.  A parity block is computed anew under a name of its own.  A block whose
location an outside catalog knows stays with that catalog, which is told the block that it was.
-/

/-!
## What a reconciliation reads

A reconciliation puts together what is known of the blocks before a transition and what a solver has
decided about the stripes after it.
-/

namespace Restripe

/-- Everything that a reconciliation reads. -/
structure Reconciliation where
  code : Code
  cluster : Cluster
  /-- Where the blocks are before the transition; not read where an outside catalog knows it. -/
  before : ProvenanceTable
  /-- The nodes of the new stripes. -/
  placement : Placement
  /-- What the new stripes are made of. -/
  groups : List StripeGroup
  dataDirectory : Path
  /-- Whether an outside catalog knows where the blocks are. -/
  managed : Bool
  /-- Workers that share the stripes; zero asks for as many as there are processors. -/
  workers : UInt64
  deriving DecidableEq

/-!
## Counters of a reconciliation

Every stripe bumps counters of its own as its blocks are decided, and the counters of all stripes
are added up.  A value that no counter can hold is an overflow.
-/

/-- Block and stripe counters of one reconciliation.  Only data blocks whose old node is known are
retained or relocated. -/
structure Stats where
  /-- Data blocks that stay on their node. -/
  retained : UInt64
  /-- Data blocks that go to another node. -/
  relocated : UInt64
  /-- Parity blocks that have yet to be computed. -/
  minted : UInt64
  /-- Blocks whose location is left to an outside catalog. -/
  deferred : UInt64
  /-- Stripes whose parity is computed anew. -/
  reEncoded : UInt64
  /-- Stripes whose parity is merged. -/
  parityMerged : UInt64
  deriving DecidableEq, Repr, Inhabited

/-- What a reconciliation counts. -/
inductive Counter where
  /-- Data blocks that stay on their node. -/
  | retained
  /-- Data blocks that go to another node. -/
  | relocated
  /-- Parity blocks that have yet to be computed. -/
  | minted
  /-- Blocks whose location is left to an outside catalog. -/
  | deferred
  /-- Stripes whose parity is computed anew. -/
  | reEncoded
  /-- Stripes whose parity is merged. -/
  | parityMerged
  deriving DecidableEq, Repr

def EncodeMethod.counter : EncodeMethod → Counter
  | .reEncode => .reEncoded
  | .parityMerge => .parityMerged

namespace Stats

def value (stats : Stats) : Counter → UInt64
  | .retained => stats.retained
  | .relocated => stats.relocated
  | .minted => stats.minted
  | .deferred => stats.deferred
  | .reEncoded => stats.reEncoded
  | .parityMerged => stats.parityMerged

def ofValues (value : Counter → UInt64) : Stats where
  retained := value .retained
  relocated := value .relocated
  minted := value .minted
  deferred := value .deferred
  reEncoded := value .reEncoded
  parityMerged := value .parityMerged

/-- Counters that nothing has bumped. -/
def zero : Stats := ofValues fun _ => 0

/-- The sum of two values, if a counter can hold it. -/
def sum (left right : UInt64) : Except Error UInt64 :=
  if left.toNat + right.toNat < UInt64.size then pure (left + right) else throw (.fault .overflow)

def absorb (stats other : Stats) : Except Error Stats := do
  return {
    retained := ← sum stats.retained other.retained
    relocated := ← sum stats.relocated other.relocated
    minted := ← sum stats.minted other.minted
    deferred := ← sum stats.deferred other.deferred
    reEncoded := ← sum stats.reEncoded other.reEncoded
    parityMerged := ← sum stats.parityMerged other.parityMerged }

def bump (stats : Stats) (counter : Counter) : Except Error Stats :=
  stats.absorb (ofValues fun other => if other = counter then 1 else 0)

/-- Bump counters one after the other, from zero. -/
def tally (counters : List Counter) : Except Error Stats :=
  counters.foldlM bump zero

def toDatum (stats : Stats) : Datum :=
  .record [
    ("retained", .natural stats.retained.toNat),
    ("relocated", .natural stats.relocated.toNat),
    ("minted", .natural stats.minted.toNat),
    ("deferred", .natural stats.deferred.toNat),
    ("re_encode_stripes", .natural stats.reEncoded.toNat),
    ("parity_merge_stripes", .natural stats.parityMerged.toNat)]

def ofDatum? (datum : Datum) : Option Stats := do
  match ← datum.slots? Json.dialect [["retained"], ["relocated"], ["minted"], ["deferred"],
      ["re_encode_stripes"], ["parity_merge_stripes"]] with
  | [retained, relocated, minted, deferred, reEncoded, parityMerged] =>
      return {
        retained := ← retained.required Datum.uint64?
        relocated := ← relocated.required Datum.uint64?
        minted := ← minted.required Datum.uint64?
        deferred := ← deferred.required Datum.uint64?
        reEncoded := ← reEncoded.required Datum.uint64?
        parityMerged := ← parityMerged.required Datum.uint64? }
  | _ => none

end Stats

/-! ## Blocks and stripes -/

/-- The entry of a block of a new stripe, and the counters that it bumps. -/
structure BlockOutcome where
  entry : Entry
  counts : List Counter
  deriving DecidableEq, Repr

/-- The blocks of a new stripe. -/
structure StripeOutcome where
  method : EncodeMethod
  blocks : List BlockOutcome
  deriving DecidableEq, Repr

/-- The counters that a stripe bumps: that of its method, and then those of its blocks. -/
def StripeOutcome.counts (stripe : StripeOutcome) : List Counter :=
  stripe.method.counter :: stripe.blocks.flatMap BlockOutcome.counts

namespace Reconciliation

/-- The new location of a file that goes to the directory of a node. -/
def relocate (dataDirectory : Path) (node : NodeId) (path : Path) (source : BlockKey) :
    Except Error Location :=
  match path.fileName? with
  | some name => pure (.stored (relocatedPath dataDirectory node name))
  | none => throw (.artifactMismatch (.unnamedFile path source))

/-- The location of a data block that was `source` and goes to a node, and the counters that it
bumps. -/
def carry (input : Reconciliation) (node : NodeId) (source : BlockKey) :
    Except Error (Location × List Counter) :=
  if input.managed then
    pure (.pending (some source), [.deferred])
  else
    match input.before.find? source with
    | none => throw (.missingProvenance source)
    | some before =>
        let move : Counter := if before.node = node then .retained else .relocated
        match before.location with
        | .stored path => do return (← relocate input.dataDirectory node path source, [move])
        | .pending _ => pure (.pending (some source), [move, .deferred])

/-- The location of a parity block that goes to a node, and the counters that it bumps. -/
def mint (input : Reconciliation) (node : NodeId) (key : BlockKey) : Location × List Counter :=
  if input.managed then (.pending none, [.minted, .deferred])
  else (.stored (parityBlockPath input.dataDirectory node key), [.minted])

/-- The block that a data block of a group comes from. -/
def sourceKey (code : Code) (group : StripeGroup) (block : BlockIndex) : Except Error BlockKey := do
  let (position, index) ← code.source block
  match group.contributing[position.toNat]? with
  | some stripe => pure ⟨stripe, index⟩
  | none => throw (.fault .outOfBounds)

/-- Reconcile a block that a group assigns to a node. -/
def reconcileBlock (input : Reconciliation) (group : StripeGroup) (key : BlockKey) (node : NodeId) :
    Except Error BlockOutcome := do
  let (location, counts) ←
    if key.block < input.code.dataAfter then
      carry input node (← sourceKey input.code group key.block)
    else
      pure (mint input node key)
  return ⟨⟨key, node, location⟩, counts⟩

/-- Reconcile the stripe of the group at `index`. -/
def reconcileStripe (input : Reconciliation) (group : StripeGroup) (index : Nat) :
    Except Error StripeOutcome := do
  let stripe ← stripeAt index
  let nodes := group.nodes.take input.code.widthAfter.toNat
  let blocks ← nodes.zipIdx.mapM fun (node, block) =>
    reconcileBlock input group ⟨stripe, UInt16.ofNat block⟩ node
  return ⟨group.method, blocks⟩

end Reconciliation

end Restripe
