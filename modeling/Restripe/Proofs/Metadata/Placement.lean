import Mathlib.Algebra.Order.BigOperators.Group.List
import Mathlib.Data.List.Nodup
import Restripe.Proofs.Metadata.Row
import Restripe.Proofs.Validation

/-!
# The blocks of a placement

A placement names a block for every node in its rows.  As long as there are no more stripes and no
wider rows than keys can count, these names are all different, and a block is named just where it
has a holder.
-/

namespace Restripe

namespace BlockKey

/-- The key of the block at a place, where there are numbers for the place. -/
def ofIndices (stripe block : Nat) : BlockKey := ⟨UInt32.ofNat stripe, UInt16.ofNat block⟩

@[simp] theorem ofIndices_toNat (key : BlockKey) :
    ofIndices key.stripe.toNat key.block.toNat = key := by
  simp [ofIndices]

theorem toNat_stripe_ofIndices {stripe : Nat} (fits : stripe < UInt32.size) (block : Nat) :
    (ofIndices stripe block).stripe.toNat = stripe :=
  UInt32.toNat_ofNat_of_lt' fits

theorem toNat_block_ofIndices (stripe : Nat) {block : Nat} (fits : block < UInt16.size) :
    (ofIndices stripe block).block.toNat = block :=
  UInt16.toNat_ofNat_of_lt' fits

end BlockKey

namespace Placement

open BlockKey

/-- The keys of a stripe of `width` blocks. -/
def rowKeys (stripe width : Nat) : List BlockKey :=
  (List.range width).map (ofIndices stripe)

def keys (placement : Placement) : List BlockKey :=
  placement.zipIdx.flatMap fun (nodes, stripe) => rowKeys stripe nodes.length

/-- The node of the block of a key. -/
def holder? (placement : Placement) (key : BlockKey) : Option NodeId :=
  placement[key.stripe.toNat]? >>= (node? · key.block)

/-- There are keys for all blocks. -/
structure Addressable (placement : Placement) : Prop where
  stripes : placement.length ≤ UInt32.size
  blocks : ∀ nodes ∈ placement, nodes.length ≤ UInt16.size

variable {placement : Placement} {key : BlockKey}

theorem mem_rowKeys {stripe width : Nat} (stripeFits : stripe < UInt32.size)
    (widthFits : width ≤ UInt16.size) :
    key ∈ rowKeys stripe width ↔ key.stripe.toNat = stripe ∧ key.block.toNat < width := by
  simp only [rowKeys, List.mem_map, List.mem_range]
  constructor
  · rintro ⟨block, bound, rfl⟩
    rw [toNat_stripe_ofIndices stripeFits, toNat_block_ofIndices stripe (by omega)]
    exact ⟨rfl, bound⟩
  · rintro ⟨rfl, bound⟩
    exact ⟨key.block.toNat, bound, ofIndices_toNat key⟩

theorem map_ofIndices_zipIdx (stripe : Nat) (nodes : List NodeId) :
    nodes.zipIdx.map (fun place => ofIndices stripe place.2) = rowKeys stripe nodes.length := by
  have numbers : nodes.zipIdx.map Prod.snd = List.range nodes.length := by
    rw [List.zipIdx_map_snd, List.range_eq_range']
  rw [rowKeys, ← numbers, List.map_map]
  rfl

theorem rowKeys_nodup (stripe : Nat) {width : Nat} (widthFits : width ≤ UInt16.size) :
    (rowKeys stripe width).Nodup := by
  refine List.Nodup.map_on ?_ List.nodup_range
  intro left leftBound right rightBound same
  rw [List.mem_range] at leftBound rightBound
  have blocks := congrArg (fun key => key.block.toNat) same
  simpa [toNat_block_ofIndices stripe (show left < UInt16.size by omega),
    toNat_block_ofIndices stripe (show right < UInt16.size by omega)] using blocks

theorem holder?_eq_some {node : NodeId} :
    placement.holder? key = some node ↔
      ∃ nodes, placement[key.stripe.toNat]? = some nodes ∧ nodes[key.block.toNat]? = some node := by
  simp [holder?, node?, Option.bind_eq_some_iff]

/-- Where all rows are of one width, every block of every row has a holder. -/
theorem exists_holder? {width : Nat} (widths : ∀ nodes ∈ placement, nodes.length = width) :
    (∃ node, placement.holder? key = some node) ↔
      key.stripe.toNat < placement.length ∧ key.block.toNat < width := by
  simp only [holder?_eq_some]
  constructor
  · rintro ⟨node, nodes, inPlacement, inRow⟩
    rw [← widths nodes (List.mem_of_getElem? inPlacement)]
    exact ⟨(List.getElem?_eq_some_iff.mp inPlacement).1, (List.getElem?_eq_some_iff.mp inRow).1⟩
  · rintro ⟨stripeBound, blockBound⟩
    have inPlacement := List.getElem?_eq_getElem stripeBound
    rw [← widths _ (List.mem_of_getElem? inPlacement)] at blockBound
    exact ⟨_, _, inPlacement, List.getElem?_eq_getElem blockBound⟩

theorem Addressable.of_mem_zipIdx (fits : placement.Addressable) {nodes : List NodeId}
    {stripe : Nat} (member : (nodes, stripe) ∈ placement.zipIdx) :
    stripe < UInt32.size ∧ nodes.length ≤ UInt16.size := by
  have found := List.mk_mem_zipIdx_iff_getElem?.mp member
  have bound := (List.getElem?_eq_some_iff.mp found).1
  exact ⟨Nat.lt_of_lt_of_le bound fits.stripes, fits.blocks nodes (List.mem_of_getElem? found)⟩

theorem mem_keys (fits : placement.Addressable) :
    key ∈ placement.keys ↔ ∃ node, placement.holder? key = some node := by
  simp only [keys, List.mem_flatMap, Prod.exists, holder?_eq_some]
  constructor
  · rintro ⟨nodes, stripe, inPlacement, member⟩
    obtain ⟨stripeFits, widthFits⟩ := fits.of_mem_zipIdx inPlacement
    obtain ⟨rfl, inRow⟩ := (mem_rowKeys stripeFits widthFits).mp member
    exact ⟨nodes[key.block.toNat], nodes, List.mk_mem_zipIdx_iff_getElem?.mp inPlacement,
      List.getElem?_eq_getElem inRow⟩
  · rintro ⟨node, nodes, found, inRow⟩
    have inPlacement := List.mk_mem_zipIdx_iff_getElem?.mpr found
    obtain ⟨stripeFits, widthFits⟩ := fits.of_mem_zipIdx inPlacement
    exact ⟨nodes, key.stripe.toNat, inPlacement,
      (mem_rowKeys stripeFits widthFits).mpr ⟨rfl, (List.getElem?_eq_some_iff.mp inRow).1⟩⟩

theorem keys_nodup (fits : placement.Addressable) : placement.keys.Nodup := by
  have ascending : placement.zipIdx.Pairwise fun left right => left.2 < right.2 := by
    rw [← List.pairwise_map (R := (· < ·)), List.zipIdx_map_snd]
    exact List.pairwise_lt_range'
  refine List.nodup_flatMap.mpr ⟨?_, ascending.imp_of_mem ?_⟩
  · rintro ⟨nodes, stripe⟩ member
    exact rowKeys_nodup stripe (fits.of_mem_zipIdx member).2
  · rintro ⟨left, leftStripe⟩ ⟨right, rightStripe⟩ leftMember rightMember less key inLeft inRight
    obtain ⟨leftFits, leftWidth⟩ := fits.of_mem_zipIdx leftMember
    obtain ⟨rightFits, rightWidth⟩ := fits.of_mem_zipIdx rightMember
    have leftStripes := ((mem_rowKeys leftFits leftWidth).mp inLeft).1
    have rightStripes := ((mem_rowKeys rightFits rightWidth).mp inRight).1
    simp only at less
    omega

theorem length_keys (placement : Placement) :
    placement.keys.length = (placement.map List.length).sum := by
  have rows : placement.map List.length = placement.zipIdx.map fun place => place.1.length := by
    conv => lhs; rw [← List.zipIdx_map_fst 0 placement]
    rw [List.map_map]
    rfl
  simp [keys, List.length_flatMap, rowKeys, rows]

/-- There are no more blocks than pairs of numbers for stripe and block. -/
theorem length_keys_le (fits : placement.Addressable) :
    placement.keys.length ≤ UInt32.size * UInt16.size := by
  have widths : ∀ width ∈ placement.map List.length, width ≤ UInt16.size := by
    intro width member
    obtain ⟨nodes, inPlacement, rfl⟩ := List.mem_map.mp member
    exact fits.blocks nodes inPlacement
  calc
    placement.keys.length ≤ placement.length * UInt16.size := by
      have bound := List.sum_le_card_nsmul _ _ widths
      rwa [← length_keys, List.length_map, nsmul_eq_mul] at bound
    _ ≤ UInt32.size * UInt16.size := Nat.mul_le_mul_right _ fits.stripes

end Placement

/-!
## Placements and stripe groups written and read

The reader of a placement is told how wide its rows are and how many nodes there are, and that of
stripe groups is told the fan-in besides.  Rows of that shape are read back as they were written.
-/

open Outcome

/-- A row of a placement has the width of the shape, and its nodes are in the cluster. -/
structure PlacementShape.Admits (shape : PlacementShape) (nodes : List NodeId) : Prop where
  length_eq : nodes.length = shape.width.toNat
  bounded : ∀ node ∈ nodes, node < shape.nodes

theorem PlacementShape.Admits.mono {width limit larger : UInt16} {nodes : List NodeId}
    (admitted : (⟨width, limit⟩ : PlacementShape).Admits nodes) (grows : limit ≤ larger) :
    (⟨width, larger⟩ : PlacementShape).Admits nodes :=
  ⟨admitted.length_eq, fun node member =>
    UInt16.lt_of_lt_of_le (admitted.bounded node member) grows⟩

/-- The shape of the nodes that groups assign. -/
def StripeGroupShape.placement (shape : StripeGroupShape) : PlacementShape :=
  ⟨shape.width, shape.nodes⟩

/-- A group has as many contributing stripes as the shape asks for, and its nodes are a row of a
placement. -/
structure StripeGroupShape.Admits (shape : StripeGroupShape) (group : StripeGroup) : Prop where
  contributing : group.contributing.length = shape.fanIn.toNat
  nodes : shape.placement.Admits group.nodes

/-- A code that makes whole stripes gives a shape to the groups. -/
theorem StripeGroupShape.ofCode_eq_ok {code : Code} {fanIn : UInt16} (whole : code.Whole fanIn)
    (nodes : UInt16) : ofCode code nodes = .ok ⟨fanIn, code.widthAfter, nodes⟩ := by
  rw [ofCode, Code.fanIn_eq_ok.mpr whole]
  rfl

theorem Row.node_digits (row : Row) {limit : UInt16} (column : Nat) {node : NodeId}
    (bounded : node < limit) : row.node limit column (Decimal.digits node.toNat) = .ok node := by
  simp [Row.node, Row.token, UInt16.not_le.mpr bounded]

theorem Row.columns_nodes (row : Row) {limit : UInt16} {nodes : List NodeId}
    (bounded : ∀ node ∈ nodes, node < limit) (first : Nat) :
    Row.columns (row.node limit) first (nodes.map fun node => Decimal.digits node.toNat)
      = .ok nodes :=
  Row.columns_map (fun node member column => row.node_digits column (bounded node member)) first

theorem Row.lt_of_node {row : Row} {limit : UInt16} {column : Nat} {token : Text} {node : NodeId}
    (read : row.node limit column token = .ok node) : node < limit := by
  obtain ⟨value, -, read⟩ := bind_eq_ok.mp read
  dsimp only at read
  split at read
  · cases read
  · rename_i below
    exact Except.ok.inj read ▸ UInt16.not_le.mp below

theorem Row.of_columns {α : Type} {read : Nat → Text → Except Flaw α} {first : Nat}
    {tokens : List Text} {values : List α} (success : columns read first tokens = .ok values) :
    values.length = tokens.length ∧
      ∀ value ∈ values, ∃ column token, read column token = .ok value := by
  induction tokens generalizing first values with
  | nil =>
      obtain rfl := Except.ok.inj success
      simp
  | cons token tokens ih =>
      obtain ⟨value, head, success⟩ := bind_eq_ok.mp success
      obtain ⟨others, rest, same⟩ := bind_eq_ok.mp success
      obtain rfl := Except.ok.inj same
      obtain ⟨length, each⟩ := ih rest
      exact ⟨congrArg (· + 1) length, List.forall_mem_cons.mpr ⟨⟨first, token, head⟩, each⟩⟩

theorem Row.exists_of_columns {α : Type} {read : Nat → Text → Except Flaw α} {first : Nat}
    {tokens : List Text} {values : List α} (success : columns read first tokens = .ok values)
    {token : Text} (member : token ∈ tokens) : ∃ column value, read column token = .ok value := by
  induction tokens generalizing first values with
  | nil => simp at member
  | cons head tail ih =>
      obtain ⟨value, read, success⟩ := bind_eq_ok.mp success
      obtain ⟨others, rest, -⟩ := bind_eq_ok.mp success
      rcases List.mem_cons.mp member with rfl | inTail
      · exact ⟨first, value, read⟩
      · exact ih rest inTail

namespace Placement

variable {shape : PlacementShape} {placement : Placement}

theorem admits_of_readRow {row : Row} {nodes : List NodeId}
    (success : readRow shape row = .ok nodes) : shape.Admits nodes := by
  unfold readRow at success
  split at success
  · cases success
  · rename_i width
    obtain ⟨length, each⟩ := Row.of_columns success
    refine ⟨length.trans (Decidable.not_not.mp width), fun node member => ?_⟩
    obtain ⟨column, token, read⟩ := each node member
    exact Row.lt_of_node read

/-- Every token of a row of a placement is a numeral. -/
theorem exists_uint16?_of_readRow {row : Row} {nodes : List NodeId}
    (success : readRow shape row = .ok nodes) {token : Text} (member : token ∈ row.tokens) :
    ∃ node, Decimal.uint16? token = some node := by
  unfold readRow at success
  split at success
  · cases success
  · obtain ⟨column, node, read⟩ := Row.exists_of_columns success member
    obtain ⟨value, isToken, -⟩ := bind_eq_ok.mp read
    exact ⟨value, Row.token_eq_ok.mp isToken⟩

theorem admits_of_parse {bytes : Bytes} (success : parse shape bytes = .ok placement) :
    ∀ nodes ∈ placement, shape.Admits nodes := by
  intro nodes member
  obtain ⟨rows, -, read⟩ := bind_eq_ok.mp success
  obtain ⟨row, -, read⟩ := (mem_of_mapM read nodes).mp member
  exact admits_of_readRow read

theorem readRow_digits {nodes : List NodeId} (admitted : shape.Admits nodes) (line : Nat) :
    readRow shape ⟨line, nodes.map fun node => Decimal.digits node.toNat⟩ = .ok nodes := by
  simp [readRow, admitted.length_eq, Row.columns_nodes _ admitted.bounded]

/-- A placement is read back as it was written, unless its rows are empty. -/
theorem parse_render (nonempty : 0 < shape.width.toNat)
    (admitted : ∀ nodes ∈ placement, shape.Admits nodes) :
    parse shape (Utf8.encode placement.render) = .ok placement := by
  refine mapM_readRows (fun nodes member => ⟨?_, ?_⟩) fun nodes member =>
    readRow_digits (admitted nodes member)
  · intro nothing
    have length := (admitted nodes member).length_eq
    rw [List.map_eq_nil_iff.mp nothing, List.length_nil] at length
    omega
  · intro token inRow
    obtain ⟨node, _, same⟩ := List.mem_map.mp inRow
    exact same ▸ isToken_digits _

end Placement

namespace StripeGroup

variable {shape : StripeGroupShape} {groups : List StripeGroup} {group : StripeGroup}

theorem isRow_toTokens (group : StripeGroup) : IsRow group.toTokens := by
  refine ⟨by simp [toTokens], fun token member => ?_⟩
  simp only [toTokens, List.mem_append, List.mem_map, List.mem_cons] at member
  rcases member with ⟨stripe, _, same⟩ | same | ⟨node, _, same⟩
  all_goals
    subst same
    exact isToken_digits _

theorem readMethod_digits (row : Row) (column : Nat) (method : EncodeMethod) :
    readMethod row column (Decimal.digits method.id.toNat) = .ok method := by
  simp [readMethod, Row.token]

theorem readRow_toTokens (admitted : shape.Admits group) (line : Nat) :
    readRow shape ⟨line, group.toTokens⟩ = .ok group := by
  have stripes : (group.contributing.map fun stripe => Decimal.digits stripe.toNat).length
      = shape.fanIn.toNat := by
    rw [List.length_map, admitted.contributing]
  have width : group.nodes.length = shape.width.toNat := admitted.nodes.length_eq
  have count : group.toTokens.length = shape.fieldsPerRow := by
    simp only [toTokens, List.length_append, List.length_cons, List.length_map,
      admitted.contributing, width, StripeGroupShape.fieldsPerRow]
    omega
  have first : group.toTokens.take shape.fanIn.toNat
      = group.contributing.map fun stripe => Decimal.digits stripe.toNat :=
    List.take_left' stripes
  have others : group.toTokens.drop shape.fanIn.toNat = Decimal.digits group.method.id.toNat ::
      group.nodes.map fun node => Decimal.digits node.toNat :=
    List.drop_left' stripes
  have contributing (row : Row) : Row.columns (row.token .contributingStripe Decimal.uint32?) 0
      (group.contributing.map fun stripe => Decimal.digits stripe.toNat)
        = .ok group.contributing :=
    Row.columns_map (fun stripe _ column => by simp [Row.token]) 0
  have nodes (row : Row) := row.columns_nodes admitted.nodes.bounded (shape.fanIn.toNat + 1)
  simp only [readRow, count, others, first, contributing, readMethod_digits, ok_bind, ne_eq,
    not_true_eq_false, if_false, StripeGroupShape.placement] at nodes ⊢
  rw [nodes]
  rfl

theorem parse_render (admitted : ∀ group ∈ groups, shape.Admits group) :
    parse shape (Utf8.encode (render groups)) = .ok groups :=
  mapM_readRows (fun group _ => isRow_toTokens group) fun group member =>
    readRow_toTokens (admitted group member)

end StripeGroup

end Restripe
