import Restripe.Proofs.Metadata.Placement
import Restripe.Proofs.Path
import Restripe.Proofs.Reconcile.Artifacts
import Restripe.Reconcile.Stripe

/-!
# Where the blocks of a stripe go

Every block of a new stripe gets one entry, under its own key and on the node that its group
assigns.  The rules of `Located` say where the entry points.  Once the input is checked, a block can
fail only where its source is unknown or names no file.
-/

namespace Restripe

open Outcome

/-- The old block that a data block of a group is carried over from.  The contributing stripes take
their turns, each with as many blocks as an old stripe has data. -/
def StripeGroup.source? (group : StripeGroup) (code : Code) (block : BlockIndex) :
    Option BlockKey :=
  group.contributing[block.toNat / code.dataBefore.toNat]?.map fun stripe =>
    ⟨stripe, block % code.dataBefore⟩

namespace Reconciliation

/-- The old block that a data block of a new stripe is carried over from. -/
def source? (input : Reconciliation) (key : BlockKey) : Option BlockKey :=
  input.groups[key.stripe.toNat]? >>= fun group => group.source? input.code key.block

/-- An entry points to where its block belongs. -/
inductive Located (input : Reconciliation) (entry : Entry) : Prop where
  /-- Where an outside catalog knows all locations, it is told the source of a data block. -/
  | entrusted {source : BlockKey}
      (isData : entry.key.block < input.code.dataAfter)
      (carried : input.source? entry.key = some source)
      (managed : input.managed = true)
      (location : entry.location = .pending (some source))
  /-- A data block whose source waits for an outside catalog waits as well. -/
  | deferred {source : BlockKey} {before : Entry} {awaited : Option BlockKey}
      (isData : entry.key.block < input.code.dataAfter)
      (carried : input.source? entry.key = some source)
      (unmanaged : input.managed = false)
      (recorded : input.before.find? source = some before)
      (pending : before.location = .pending awaited)
      (location : entry.location = .pending (some source))
  /-- The file of any other data block keeps its name and goes to the directory of its node. -/
  | moved {source : BlockKey} {before : Entry} {path : Path} {name : Bytes}
      (isData : entry.key.block < input.code.dataAfter)
      (carried : input.source? entry.key = some source)
      (unmanaged : input.managed = false)
      (recorded : input.before.find? source = some before)
      (stored : before.location = .stored path)
      (named : path.fileName? = some name)
      (location : entry.location = .stored (relocatedPath input.dataDirectory entry.node name))
  /-- An outside catalog is told of a parity block without source. -/
  | announced
      (isParity : input.code.dataAfter ≤ entry.key.block)
      (managed : input.managed = true)
      (location : entry.location = .pending none)
  /-- The file of any other parity block is named for the block. -/
  | minted
      (isParity : input.code.dataAfter ≤ entry.key.block)
      (unmanaged : input.managed = false)
      (location : entry.location =
        .stored (parityBlockPath input.dataDirectory entry.node entry.key))

/-- Why a source cannot be carried over. -/
inductive Uncarried (input : Reconciliation) (source : BlockKey) : Error → Prop where
  | missing
      (unmanaged : input.managed = false)
      (unrecorded : input.before.find? source = none) :
      Uncarried input source (.missingProvenance source)
  | unnamed {before : Entry} {path : Path}
      (unmanaged : input.managed = false)
      (recorded : input.before.find? source = some before)
      (stored : before.location = .stored path)
      (unnamed : path.fileName? = none) :
      Uncarried input source (.artifactMismatch (.unnamedFile path source))

variable {input : Reconciliation} {group : StripeGroup} {key source : BlockKey} {node : NodeId}
  {fanIn : UInt16}

/-- The rules leave no choice: of one block on one node only one entry is located. -/
theorem Located.unique {left right : Entry} (leftLocated : Located input left)
    (rightLocated : Located input right) (keys : left.key = right.key)
    (nodes : left.node = right.node) : left = right := by
  have locations : left.location = right.location := by
    -- Different rules exclude each other, and one rule has the same source on both sides.
    cases leftLocated <;> cases rightLocated <;> simp_all [← UInt16.not_lt]
  cases left
  cases right
  simp_all

/-! ## Sources -/

theorem exists_source (whole : input.code.Whole fanIn)
    (contributing : group.contributing.length = fanIn.toNat)
    (isData : key.block < input.code.dataAfter) :
    ∃ source, group.source? input.code key.block = some source := by
  have bound : key.block.toNat < fanIn.toNat * input.code.dataBefore.toNat :=
    whole.dataAfter_eq ▸ UInt16.lt_iff_toNat_lt.mp isData
  have position := (Nat.div_lt_iff_lt_mul whole.dataBefore_pos).mpr bound
  rw [← contributing] at position
  exact ⟨_, by rw [StripeGroup.source?, List.getElem?_eq_getElem position]; rfl⟩

/-- Working out a source gives the one that the division of the block index says. -/
theorem sourceKey_eq_ok (positive : 0 < input.code.dataBefore.toNat)
    (found : group.source? input.code key.block = some source) :
    sourceKey input.code group key.block = .ok source := by
  have nonzero : input.code.dataBefore ≠ 0 := by
    intro zero
    simp [zero] at positive
  obtain ⟨stripe, contributes, rfl⟩ := Option.map_eq_some_iff.mp found
  simp [sourceKey, Code.source, Code.source?, nonzero, UInt16.toNat_div, contributes]

/-! ## Blocks -/

/-- A data block gets the location that its source has a right to, or fails for want of one. -/
theorem carry_cases (isData : key.block < input.code.dataAfter)
    (carried : input.source? key = some source) (node : NodeId) :
    (∃ location counts, carry input node source = .ok (location, counts) ∧
      Located input ⟨key, node, location⟩) ∨
    ∃ error, carry input node source = .error error ∧ Uncarried input source error := by
  unfold carry
  cases managed : input.managed with
  | true => exact .inl ⟨_, _, rfl, .entrusted isData carried managed rfl⟩
  | false =>
      cases recorded : input.before.find? source with
      | none => exact .inr ⟨_, rfl, .missing managed recorded⟩
      | some before =>
          let move : Counter := if before.node = node then .retained else .relocated
          cases location : before.location with
          | pending awaited =>
              refine .inl ⟨.pending (some source), [move, .deferred], ?_,
                .deferred isData carried managed recorded location rfl⟩
              simp [location, move]
          | stored path =>
              cases named : path.fileName? with
              | none =>
                  refine .inr ⟨_, ?_, .unnamed managed recorded location named⟩
                  simp [relocate, location, named]
              | some name =>
                  refine .inl ⟨.stored (relocatedPath input.dataDirectory node name), [move], ?_,
                    .moved isData carried managed recorded location named rfl⟩
                  simp [relocate, location, named, move]

theorem located_mint (isParity : input.code.dataAfter ≤ key.block) (node : NodeId) :
    Located input ⟨key, node, (mint input node key).1⟩ := by
  unfold mint
  cases managed : input.managed with
  | true => exact .announced isParity managed rfl
  | false => exact .minted isParity managed rfl

/-- Once the input is checked, a block is located under its key on its node, or its source cannot be
carried over. -/
theorem reconcileBlock_cases (checked : input.Checked fanIn)
    (inGroups : input.groups[key.stripe.toNat]? = some group) (node : NodeId) :
    (∃ location counts, reconcileBlock input group key node = .ok ⟨⟨key, node, location⟩, counts⟩ ∧
      Located input ⟨key, node, location⟩) ∨
    ∃ source error, reconcileBlock input group key node = .error error ∧
      key.block < input.code.dataAfter ∧ input.source? key = some source ∧
      Uncarried input source error := by
  have whole := checked.admits.toWhole
  have contributing := checked.length_contributing group (List.mem_of_getElem? inGroups)
  unfold reconcileBlock
  by_cases isData : key.block < input.code.dataAfter
  · obtain ⟨source, found⟩ := exists_source whole contributing isData
    have carried : input.source? key = some source := by
      simp [Reconciliation.source?, inGroups, found]
    have worked := sourceKey_eq_ok whole.dataBefore_pos found
    rcases carry_cases isData carried node with
      ⟨location, counts, success, located⟩ | ⟨error, fails, uncarried⟩
    · exact .inl ⟨location, counts, by simp [isData, worked, success], located⟩
    · exact .inr ⟨source, error, by simp [isData, worked, fails], isData, carried, uncarried⟩
  · have isParity := UInt16.not_lt.mp isData
    exact .inl ⟨_, (mint input node key).2, by simp [isData], located_mint isParity node⟩

theorem located_of_reconcileBlock (checked : input.Checked fanIn)
    (inGroups : input.groups[key.stripe.toNat]? = some group) {outcome : BlockOutcome}
    (success : reconcileBlock input group key node = .ok outcome) :
    outcome.entry.key = key ∧ outcome.entry.node = node ∧ Located input outcome.entry := by
  rcases reconcileBlock_cases checked inGroups node with
    ⟨location, counts, same, located⟩ | ⟨source, error, fails, -⟩
  · obtain rfl := Except.ok.inj (same.symm.trans success)
    exact ⟨rfl, rfl, located⟩
  · rw [fails] at success
    contradiction

theorem uncarried_of_reconcileBlock (checked : input.Checked fanIn)
    (inGroups : input.groups[key.stripe.toNat]? = some group) {error : Error}
    (fails : reconcileBlock input group key node = .error error) :
    key.block < input.code.dataAfter ∧
      ∃ source, input.source? key = some source ∧ Uncarried input source error := by
  rcases reconcileBlock_cases checked inGroups node with
    ⟨location, counts, success, -⟩ | ⟨source, other, same, isData, carried, uncarried⟩
  · rw [success] at fails
    contradiction
  · obtain rfl := Except.error.inj (same.symm.trans fails)
    exact ⟨isData, source, carried, uncarried⟩

/-! ## Stripes -/

section Stripes

variable {index : Nat} {outcome : StripeOutcome}

theorem reconcileStripe_eq (checked : input.Checked fanIn)
    (inGroups : input.groups[index]? = some group) :
    reconcileStripe input group index = (do
      let blocks ← group.nodes.zipIdx.mapM fun (node, block) =>
        reconcileBlock input group (.ofIndices index block) node
      return ⟨group.method, blocks⟩) := by
  have fits := checked.stripe_lt inGroups
  have width := checked.length_nodes group (List.mem_of_getElem? inGroups)
  simp [reconcileStripe, stripeAt, fits, ← width, BlockKey.ofIndices]

theorem getElem?_ofIndices (checked : input.Checked fanIn)
    (inGroups : input.groups[index]? = some group) (block : Nat) :
    input.groups[(BlockKey.ofIndices index block).stripe.toNat]? = some group := by
  rw [BlockKey.toNat_stripe_ofIndices (checked.stripe_lt inGroups), inGroups]

/-- A stripe fails only where it has a data block whose source cannot be carried over. -/
theorem uncarried_of_reconcileStripe (checked : input.Checked fanIn)
    (inGroups : input.groups[index]? = some group) {error : Error}
    (fails : reconcileStripe input group index = .error error) :
    ∃ block source, input.source? (.ofIndices index block) = some source ∧
      Uncarried input source error := by
  rw [reconcileStripe_eq checked inGroups, bind_eq_error] at fails
  rcases fails with fails | ⟨blocks, -, impossible⟩
  · obtain ⟨block, ⟨node, -, fails⟩, -⟩ := mapM_zipIdx_eq_error.mp fails
    have found := getElem?_ofIndices checked inGroups (0 + block)
    obtain ⟨-, source, carried, uncarried⟩ := uncarried_of_reconcileBlock checked found fails
    exact ⟨0 + block, source, carried, uncarried⟩
  · simp at impossible

theorem blocks_of_reconcileStripe (checked : input.Checked fanIn)
    (inGroups : input.groups[index]? = some group)
    (success : reconcileStripe input group index = .ok outcome) :
    outcome.method = group.method ∧ group.nodes.zipIdx.mapM (fun (node, block) =>
      reconcileBlock input group (.ofIndices index block) node) = .ok outcome.blocks := by
  rw [reconcileStripe_eq checked inGroups] at success
  obtain ⟨blocks, traversal, same⟩ := bind_eq_ok.mp success
  obtain rfl := Except.ok.inj same
  exact ⟨rfl, traversal⟩

theorem keys_of_reconcileStripe (checked : input.Checked fanIn)
    (inGroups : input.groups[index]? = some group)
    (success : reconcileStripe input group index = .ok outcome) :
    outcome.blocks.map (·.entry.key) = Placement.rowKeys index group.nodes.length := by
  have traversal := (blocks_of_reconcileStripe checked inGroups success).2
  have places : outcome.blocks.map (·.entry.key) =
      group.nodes.zipIdx.map fun place => .ofIndices index place.2 := by
    refine map_of_mapM traversal ?_
    rintro ⟨node, block⟩ - result step
    exact (located_of_reconcileBlock checked (getElem?_ofIndices checked inGroups block) step).1
  rw [places, Placement.map_ofIndices_zipIdx]

/-- Every block of a stripe is located under its key on the node that the group assigns. -/
theorem located_of_mem_blocks (checked : input.Checked fanIn)
    (inGroups : input.groups[index]? = some group)
    (success : reconcileStripe input group index = .ok outcome) {block : BlockOutcome}
    (member : block ∈ outcome.blocks) :
    input.placement.holder? block.entry.key = some block.entry.node ∧
      Located input block.entry := by
  have traversal := (blocks_of_reconcileStripe checked inGroups success).2
  obtain ⟨⟨node, position⟩, inNodes, step⟩ := (mem_of_mapM traversal block).mp member
  have found := getElem?_ofIndices checked inGroups position
  obtain ⟨key, holder, located⟩ := located_of_reconcileBlock checked found step
  have inRow := List.mk_mem_zipIdx_iff_getElem?.mp inNodes
  have fits := checked.block_lt (List.mem_of_getElem? inGroups) inRow
  refine ⟨Placement.holder?_eq_some.mpr ⟨group.nodes, ?_, ?_⟩, located⟩
  · rw [key, checked.placement_getElem?, found, Option.map_some]
  · rw [key, BlockKey.toNat_block_ofIndices index fits, inRow, holder]

end Stripes

end Reconciliation

end Restripe
