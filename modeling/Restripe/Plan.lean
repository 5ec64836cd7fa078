import Restripe.Machine
import Restripe.Metadata.Row

/-!
# Planning a transition

Stripes are merged in their order.  Every data block of a new stripe stays on its node, unless an
earlier one of that stripe is there already; the other positions go to the lowest nodes that no data
block has kept.  So the blocks of a new stripe sit on different nodes, and no assignment keeps more
data blocks in place.
-/

namespace Restripe

/-- The method of new stripes where an approach fixes none: parity is merged unless there is more of
it afterwards. -/
def Code.method (code : Code) (approach : Approach) : EncodeMethod :=
  approach.method?.getD
    (if code.parityAfter ≤ code.parityBefore then .parityMerge else .reEncode)

def numbersBelow (bound : UInt16) : List UInt16 :=
  (List.range bound.toNat).map UInt16.ofNat

namespace Plan

/-- The node of the block that a data block of a new stripe comes from, where the stripe is made of
`rows`. -/
def sourceNode (code : Code) (nodes : UInt16) (rows : Placement) (block : BlockIndex) :
    Except Error NodeId := do
  let (position, index) ← code.source block
  match rows[position.toNat]? >>= (Placement.node? · index) with
  | none => throw (.solver (.missingBlock position index))
  | some node => if node < nodes then pure node else throw (.solver (.nodeOutside node))

/-- A new stripe whose nodes are being decided. -/
structure Draft where
  /-- Whether a node is taken, by node. -/
  taken : Array Bool
  /-- The nodes that blocks keep, by block. -/
  slots : Array (Option NodeId)

/-- A draft of a stripe of `width` blocks in which nothing is decided. -/
def Draft.empty (nodes width : UInt16) : Draft where
  taken := .replicate nodes.toNat false
  slots := .replicate width.toNat none

/-- Keep a block on its node, unless an earlier one is there. -/
def Draft.keep (draft : Draft) (block : BlockIndex) (node : NodeId) : Except Error Draft := do
  if ← itemAt draft.taken node.toNat then
    return draft
  let taken ← putAt draft.taken node.toNat true
  return ⟨taken, ← putAt draft.slots block.toNat (some node)⟩

/-- The first candidate that is not taken, and the candidates after it. -/
def nextFree (taken : Array Bool) : List NodeId → Except Error (NodeId × List NodeId)
  | [] => throw (.internal .outOfNodes)
  | candidate :: candidates => do
      if ← itemAt taken candidate.toNat then nextFree taken candidates
      else return (candidate, candidates)

/-- Give the blocks that keep no node the candidates that are not taken, in their order. -/
def settle (taken : Array Bool) (candidates : List NodeId) :
    List (Option NodeId) → Except Error (List NodeId)
  | [] => pure []
  | some node :: slots => return node :: (← settle taken candidates slots)
  | none :: slots => do
      let (node, candidates) ← nextFree taken candidates
      let taken ← putAt taken node.toNat true
      return node :: (← settle taken candidates slots)

/-- The nodes of the new stripe made of `rows`. -/
def assign (code : Code) (nodes : UInt16) (rows : Placement) : Except Error (List NodeId) := do
  let draft ← (numbersBelow code.dataAfter).foldlM (fun draft block => do
    draft.keep block (← sourceNode code nodes rows block)) (Draft.empty nodes code.widthAfter)
  settle draft.taken (numbersBelow nodes) draft.slots.toList

/-- The group that makes the new stripe at `index` of its `rows`. -/
def group (code : Code) (nodes : UInt16) (approach : Approach) (fanIn : Nat) (rows : Placement)
    (index : Nat) : Except Error StripeGroup := do
  let first ← word (index * fanIn)
  let contributing ← (← wordsFrom first fanIn).mapM stripeAt
  return ⟨contributing, code.method approach, ← assign code nodes rows⟩

end Plan

/-- Plan a transition of the stripes of a placement on a cluster of `nodes`. -/
def planTransition (code : Code) (nodes : UInt16) (approach : Approach) (before : Placement) :
    Except Error (List StripeGroup) := do
  let fanIn := (← code.fanIn).toNat
  if nodes < code.widthAfter then
    throw (.solver (.tooFewNodes nodes code.widthAfter))
  let (_, remainder) ← divide before.length fanIn
  if remainder ≠ 0 then
    throw (.solver (.unevenGroups before.length fanIn))
  (← chunks fanIn before).zipIdx.mapM fun (rows, index) =>
    Plan.group code nodes approach fanIn rows index

/-- The placement that stripe groups assign. -/
def StripeGroup.placement (groups : List StripeGroup) : Placement :=
  groups.map StripeGroup.nodes

namespace Plan

/-- Whether a data block of the new stripe at `index` sits on the node of its source. -/
def isRetained (code : Code) (before : Placement) (fanIn index : Nat) (nodes : List NodeId)
    (block : BlockIndex) : Except Error Bool := do
  let (position, sourceBlock) ← code.source block
  let first ← word (index * fanIn)
  match before[← word (first + position.toNat)]? with
  | some row => pure (Placement.node? row sourceBlock == Placement.node? nodes block)
  | none => throw (.fault .outOfBounds)

/-- How many data blocks of the new stripe at `index` stay on their node. -/
def countStripe (code : Code) (before : Placement) (fanIn : Nat) (nodes : List NodeId)
    (index : Nat) : Except Error Nat := do
  let retained ← (numbersBelow code.dataAfter).mapM (isRetained code before fanIn index nodes)
  return retained.count true

/-- How many data blocks stay on their node. -/
def countRetained (code : Code) (before after : Placement) : Except Error Nat := do
  let (fanIn, _) ← divide code.dataAfter (max code.dataBefore 1)
  after.zipIdx.foldlM (fun total (nodes, index) => do
    word (total + (← countStripe code before fanIn.toNat nodes index))) 0

end Plan

end Restripe
