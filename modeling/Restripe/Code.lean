import Restripe.Block

/-!
# Codes and clusters

A transition takes stripes of `dataBefore` data and `parityBefore` parity blocks to stripes of
`dataAfter` and `parityAfter`.  Each new stripe is made of as many old ones as its data needs.
-/

namespace Restripe

/-- Coding parameters before and after a transition. -/
structure Code where
  dataBefore : UInt16
  parityBefore : UInt16
  dataAfter : UInt16
  parityAfter : UInt16
  deriving DecidableEq, Repr, Inhabited

/-- The nodes of a cluster and the stripes on them before a transition. -/
structure Cluster where
  nodes : UInt16
  stripes : UInt32
  deriving DecidableEq, Repr, Inhabited

/-- The number of blocks of a stripe, no more than its type can hold. -/
def stripeWidth (data parity : UInt16) : UInt16 :=
  UInt16.ofNat (min (data.toNat + parity.toNat) (UInt16.size - 1))

namespace Code

def widthBefore (code : Code) : UInt16 :=
  stripeWidth code.dataBefore code.parityBefore

def widthAfter (code : Code) : UInt16 :=
  stripeWidth code.dataAfter code.parityAfter

/-- Where a data block of a new stripe comes from: the position of the contributing stripe and the
block's index there.  Stripes without data blocks contribute nothing. -/
def source? (code : Code) (block : BlockIndex) : Option (UInt16 × BlockIndex) :=
  if code.dataBefore = 0 then none
  else some (block / code.dataBefore, block % code.dataBefore)

end Code

namespace Cluster

/-- Stripes after a transition that makes one out of `fanIn`. -/
def stripesAfter? (cluster : Cluster) (fanIn : UInt16) : Option UInt32 :=
  if fanIn = 0 then none else some (cluster.stripes / fanIn.toUInt32)

/-- The cluster with its stripes rounded up to whole groups of `fanIn`, if that many can be
counted. -/
def roundUp? (cluster : Cluster) (fanIn : UInt16) : Option Cluster :=
  let size := max fanIn.toNat 1
  let rounded := (cluster.stripes.toNat + size - 1) / size * size
  if rounded < UInt32.size then some { cluster with stripes := UInt32.ofNat rounded } else none

end Cluster

/-!
## Encode methods and approaches

The parity of a stripe made by a transition is computed from its data blocks, or merged from the
parity of the stripes it is made of.  An approach names a placement strategy and may fix the method.
-/

/-- How the parity of a stripe made by a transition comes about. -/
inductive EncodeMethod where
  /-- Computed from all data blocks of the stripe. -/
  | reEncode
  /-- Merged from the parity blocks of the contributing stripes. -/
  | parityMerge
  deriving DecidableEq, Repr

namespace EncodeMethod

/-- The number that stands for a method in stripe-group metadata. -/
def id : EncodeMethod → UInt8
  | .reEncode => 0
  | .parityMerge => 1

def ofId? (id : UInt8) : Option EncodeMethod :=
  if id = 0 then some .reEncode else if id = 1 then some .parityMerge else none

def name : EncodeMethod → String
  | .reEncode => "re_encode"
  | .parityMerge => "parity_merge"

def all : List EncodeMethod := [.reEncode, .parityMerge]

def ofName? (name : String) : Option EncodeMethod :=
  all.find? (·.name == name)

@[simp] theorem ofId?_id (method : EncodeMethod) : ofId? method.id = some method := by
  cases method <;> rfl

end EncodeMethod

/-- A placement strategy: random, sparing bandwidth or balanced, with the method it fixes. -/
inductive Approach where
  | randomReEncode
  | randomParityMerge
  | bandwidthReEncode
  | bandwidthParityMerge
  | balancedReEncode
  | balancedParityMerge
  /-- Balanced, and free to choose the method of each stripe. -/
  | balanced
  deriving DecidableEq, Repr, Inhabited

namespace Approach

def all : List Approach :=
  [.randomReEncode, .randomParityMerge, .bandwidthReEncode, .bandwidthParityMerge,
    .balancedReEncode, .balancedParityMerge, .balanced]

/-- The name of an approach, as a solver is given it. -/
def name : Approach → String
  | .randomReEncode => "RDRE"
  | .randomParityMerge => "RDPM"
  | .bandwidthReEncode => "BWRE"
  | .bandwidthParityMerge => "BWPM"
  | .balancedReEncode => "BTRE"
  | .balancedParityMerge => "BTPM"
  | .balanced => "BT"

def ofName? (name : String) : Option Approach :=
  all.find? (·.name == name)

/-- The method that an approach fixes. -/
def method? : Approach → Option EncodeMethod
  | .randomReEncode | .bandwidthReEncode | .balancedReEncode => some .reEncode
  | .randomParityMerge | .bandwidthParityMerge | .balancedParityMerge => some .parityMerge
  | .balanced => none

@[simp] theorem ofName?_name (approach : Approach) : ofName? approach.name = some approach := by
  cases approach <;> rfl

end Approach

end Restripe
