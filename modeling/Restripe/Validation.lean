import Restripe.Machine

/-!
# Consistent parameters

A transition needs non-zero coding parameters, new stripes made of whole old ones, stripes that fit
on distinct nodes, and whole groups of stripes.  The first rule that is broken is reported.
-/

namespace Restripe

/-- How many old stripes make a new one. -/
def Code.fanIn (code : Code) : Except Error UInt16 := do
  if code.dataBefore = 0 ∨ code.parityBefore = 0 ∨ code.dataAfter = 0 ∨ code.parityAfter = 0 then
    throw (.config (.zeroParameter code))
  let (quotient, remainder) ← divide code.dataAfter code.dataBefore
  if remainder ≠ 0 then
    throw (.config (.fractionalFanIn code.dataAfter code.dataBefore))
  if UInt16.size ≤ code.dataBefore.toNat + code.parityBefore.toNat
      ∨ UInt16.size ≤ code.dataAfter.toNat + code.parityAfter.toNat then
    throw (.config .widthOverflow)
  return quotient

/-- Check a code against a cluster; gives the fan-in of the code. -/
def Cluster.validate (cluster : Cluster) (code : Code) : Except Error UInt16 := do
  let fanIn ← code.fanIn
  let widest := max code.widthBefore code.widthAfter
  if cluster.nodes = 0 ∨ cluster.stripes = 0 then
    throw (.config (.emptyCluster cluster))
  if cluster.nodes < widest then
    throw (.config (.narrowCluster cluster.nodes widest))
  let (_, remainder) ← divide cluster.stripes fanIn.toUInt32
  if remainder ≠ 0 then
    throw (.config (.unevenStripes cluster.stripes fanIn))
  return fanIn

/-- The source of a data block; a division by zero where stripes have no data blocks. -/
def Code.source (code : Code) (block : BlockIndex) : Except Error (UInt16 × BlockIndex) :=
  match code.source? block with
  | some source => pure source
  | none => throw (.fault .divisionByZero)

/-- Stripes after the transition; a division by zero where the fan-in is zero. -/
def Cluster.stripesAfter (cluster : Cluster) (fanIn : UInt16) : Except Error UInt32 :=
  match cluster.stripesAfter? fanIn with
  | some stripes => pure stripes
  | none => throw (.fault .divisionByZero)

/-- The cluster with its stripes rounded up; an overflow where there are too many. -/
def Cluster.roundUp (cluster : Cluster) (fanIn : UInt16) : Except Error Cluster :=
  match cluster.roundUp? fanIn with
  | some rounded => pure rounded
  | none => throw (.fault .overflow)

/-- The approach of a name that a user gives. -/
def Approach.ofName (name : String) : Except Error Approach :=
  match Approach.ofName? name with
  | some approach => pure approach
  | none => throw (.config (.unknownApproach name))

def stripeAt (index : Nat) : Except Error StripeId :=
  if index < UInt32.size then pure (UInt32.ofNat index)
  else throw (.internal (.stripeIndex index))

def blockAt (index : Nat) : Except Error BlockIndex :=
  if index < UInt16.size then pure (UInt16.ofNat index)
  else throw (.internal (.blockIndex index))

end Restripe
