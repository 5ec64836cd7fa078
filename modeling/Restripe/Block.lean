import Restripe.Path

/-!
# Blocks and where they are

A block is named by the stripe it belongs to and its index there.  It sits on a node and has a
location: a file, or a place that an outside catalog has yet to name.  Block files lie in one
directory per node under the data directory.
-/

namespace Restripe

/-- Number of a storage node. -/
abbrev NodeId := UInt16

/-- Number of a stripe within its epoch. -/
abbrev StripeId := UInt32

/-- Position of a block within its stripe: data blocks first, then parity. -/
abbrev BlockIndex := UInt16

/-- The name of a block. -/
structure BlockKey where
  stripe : StripeId
  block : BlockIndex
  deriving DecidableEq, Repr, Inhabited

namespace BlockKey

/-- Keys are ordered by stripe, then by block. -/
instance : LT BlockKey where
  lt left right :=
    left.stripe < right.stripe ∨ left.stripe = right.stripe ∧ left.block < right.block

instance (left right : BlockKey) : Decidable (left < right) :=
  inferInstanceAs (Decidable (_ ∨ _))

def display (key : BlockKey) : String :=
  s!"({key.stripe}, {key.block})"

theorem eq_of_toNat_eq {left right : BlockKey} (stripes : left.stripe.toNat = right.stripe.toNat)
    (blocks : left.block.toNat = right.block.toNat) : left = right := by
  cases left
  cases right
  simp_all [UInt32.toNat_inj, UInt16.toNat_inj]

theorem lt_def {left right : BlockKey} :
    left < right ↔
      left.stripe < right.stripe ∨ left.stripe = right.stripe ∧ left.block < right.block :=
  Iff.rfl

theorem lt_trans {first second third : BlockKey} (left : first < second)
    (right : second < third) : first < third := by
  rw [lt_def] at *
  simp only [UInt32.lt_iff_toNat_lt, UInt16.lt_iff_toNat_lt, ← UInt32.toNat_inj] at *
  omega

theorem lt_irrefl (key : BlockKey) : ¬key < key := by
  rw [lt_def]
  simp only [UInt32.lt_iff_toNat_lt, UInt16.lt_iff_toNat_lt]
  omega

theorem lt_of_not_lt_of_ne {left right : BlockKey} (notLess : ¬left < right)
    (different : left ≠ right) : right < left := by
  have fields : ¬(left.stripe.toNat = right.stripe.toNat
      ∧ left.block.toNat = right.block.toNat) := by
    rintro ⟨stripes, blocks⟩
    exact different (eq_of_toNat_eq stripes blocks)
  rw [lt_def] at *
  simp only [UInt32.lt_iff_toNat_lt, UInt16.lt_iff_toNat_lt, ← UInt32.toNat_inj] at *
  omega

end BlockKey

/-- Where a block is. -/
inductive Location where
  /-- A file that can be opened. -/
  | stored (path : Path)
  /-- Left to an outside catalog: a carried-over data block names the block it was before the
  transition, a new parity block names none. -/
  | pending (source : Option BlockKey)
  deriving DecidableEq, Repr

namespace Location

def isPending : Location → Bool
  | .stored _ => false
  | .pending _ => true

/-- The file of a block that has one. -/
def path? : Location → Option Path
  | .stored path => some path
  | .pending _ => none

end Location

/-- What a provenance table records of one block. -/
structure Entry where
  key : BlockKey
  node : NodeId
  location : Location
  deriving DecidableEq, Repr

/-- Name of the directory that holds the blocks of a node. -/
def nodeDirectory (node : NodeId) : String :=
  s!"node_{node}"

/-- File of a block as it is first written, before any transition. -/
def initialBlockPath (dataDirectory : Path) (node : NodeId) (key : BlockKey) : Path :=
  (dataDirectory.child (nodeDirectory node)).child s!"block_{key.stripe}_{key.block}"

/-- File of a parity block that a transition computes anew. -/
def parityBlockPath (dataDirectory : Path) (node : NodeId) (key : BlockKey) : Path :=
  (dataDirectory.child (nodeDirectory node)).child s!"post_block_{key.stripe}_{key.block}"

/-- File of a block that a transition moves: its own name under the directory of its new node. -/
def relocatedPath (dataDirectory : Path) (node : NodeId) (fileName : Bytes) : Path :=
  (dataDirectory.child (nodeDirectory node)).join ⟨fileName⟩

end Restripe
