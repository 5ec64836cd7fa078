import Mathlib.Data.Finset.Card
import Mathlib.Data.Nat.Find
import Restripe.Proofs.Metadata.Placement
import Restripe.Proofs.Plan.Exact

/-!
# Plans of a transition

A placement of whole groups can be planned, and no plan keeps more blocks in place.
-/

/-!
## How much stays in place

A row of different nodes keeps at most one block on each node that data blocks come from.  An
assigned row keeps one on each of them, so no other row keeps more.
-/

namespace Restripe

open Outcome

namespace Plan

/-- How many data blocks of a new stripe a row has on the nodes they come from. -/
def retained (code : Code) (before : Placement) (index : Nat) (row : List NodeId) : Nat :=
  (List.range code.dataAfter.toNat).countP fun block =>
    origin? code before index block == row[block]?

/-- The nodes that the data blocks of a new stripe come from, each of them once. -/
def origins (code : Code) (before : Placement) (index : Nat) : Finset NodeId :=
  ((List.range code.dataAfter.toNat).filterMap (origin? code before index)).toFinset

/-! ### Rows -/

section Row

variable {sources row : List NodeId}

/-- The data blocks that a row keeps in place. -/
def staying (sources row : List NodeId) : Finset Nat :=
  (Finset.range sources.length).filter (Stays sources row)

theorem mem_staying {block : Nat} : block ∈ staying sources row ↔ Stays sources row block := by
  simp only [staying, Finset.mem_filter, Finset.mem_range, and_iff_right_iff_imp]
  exact And.left

theorem getD_of_getElem? {block : Nat} {node : NodeId} (source : sources[block]? = some node) :
    sources.getD block 0 = node := by
  rw [List.getD_eq_getElem?_getD, source, Option.getD_some]

/-- Blocks that stay on different nodes come from as many. -/
theorem card_staying_le (distinct : row.Nodup) :
    (staying sources row).card ≤ sources.toFinset.card := by
  refine Finset.card_le_card_of_injOn (sources.getD · 0) (fun block stays => ?_) ?_
  · obtain ⟨node, source, -⟩ := stays_iff_exists.mp (mem_staying.mp stays)
    dsimp only
    rw [getD_of_getElem? source]
    exact List.mem_toFinset.mpr (List.mem_of_getElem? source)
  · intro left leftStays right rightStays same
    obtain ⟨node, leftSource, leftTarget⟩ := stays_iff_exists.mp (mem_staying.mp leftStays)
    obtain ⟨other, rightSource, rightTarget⟩ := stays_iff_exists.mp (mem_staying.mp rightStays)
    dsimp only at same
    rw [getD_of_getElem? leftSource, getD_of_getElem? rightSource] at same
    have inside := (List.getElem?_eq_some_iff.mp leftTarget).1
    exact (List.getElem?_inj inside distinct).mp (by rw [leftTarget, rightTarget, same])

/-- The first block from each node stays in an assigned row. -/
theorem card_staying_of_assigned {width : Nat} {limit : UInt16}
    (assigned : Assigned sources width limit row) :
    (staying sources row).card = sources.toFinset.card := by
  refine Nat.le_antisymm (card_staying_le assigned.distinct) ?_
  refine Finset.card_le_card_of_surjOn (sources.getD · 0) fun node isSource => ?_
  have found := List.mem_iff_getElem?.mp (List.mem_toFinset.mp isSource)
  have first := Nat.find_spec found
  refine ⟨Nat.find found, mem_staying.mpr ?_, getD_of_getElem? first⟩
  rw [assigned.stays_iff _ (List.getElem?_eq_some_iff.mp first).1, first]
  exact fun earlier before => Nat.find_min found before

variable {code : Code} {before : Placement} {index : Nat}

theorem Sources.retained_eq (fromBefore : Sources code before index sources) :
    retained code before index row = (staying sources row).card := by
  have counted : (staying sources row).card =
      (List.range sources.length).countP (Stays sources row) := by
    rw [List.countP_eq_length_filter]
    rfl
  rw [counted, retained, fromBefore.length_eq]
  refine List.countP_congr fun block member => ?_
  have isData := List.mem_range.mp member
  rw [beq_iff_eq, decide_eq_true_eq, Stays, fromBefore.length_eq, ← fromBefore.getElem?_eq isData,
    eq_comm]
  exact (and_iff_right isData).symm

theorem Sources.origins_eq (fromBefore : Sources code before index sources) :
    origins code before index = sources.toFinset := by
  have same : (List.range code.dataAfter.toNat).filterMap (origin? code before index) = sources :=
    calc (List.range code.dataAfter.toNat).filterMap (origin? code before index)
        = ((List.range code.dataAfter.toNat).map (origin? code before index)).filterMap id := by
          rw [List.filterMap_map, Function.id_comp]
      _ = (sources.map some).filterMap id := by rw [fromBefore]
      _ = sources := by rw [List.filterMap_map, Function.id_comp, List.filterMap_some]
  rw [origins, same]

/-- No row of different nodes keeps more blocks in place than an assigned one, which keeps one for
each node that data blocks come from. -/
theorem retained_of_assigned {width : Nat} {limit : UInt16}
    (fromBefore : Sources code before index sources)
    (assigned : Assigned sources width limit row) :
    retained code before index row = (origins code before index).card ∧
      ∀ other : List NodeId, other.Nodup →
        retained code before index other ≤ retained code before index row := by
  rw [fromBefore.retained_eq, fromBefore.origins_eq, card_staying_of_assigned assigned]
  refine ⟨rfl, fun other distinct => ?_⟩
  rw [fromBefore.retained_eq]
  exact card_staying_le distinct

end Row

/-! ### Counting over a placement -/

section Count

variable {code : Code} {fanIn : UInt16} {before after : Placement}

theorem retained_le (code : Code) (before : Placement) (index : Nat) (row : List NodeId) :
    retained code before index row ≤ code.dataAfter.toNat := by
  have bound := List.countP_le_length (l := List.range code.dataAfter.toNat)
    (p := fun block => origin? code before index block == row[block]?)
  rwa [List.length_range] at bound

section Stripe

variable {index : Nat} (whole : code.Whole fanIn) (numbered : before.length ≤ UInt32.size)
  (bound : (index + 1) * fanIn.toNat ≤ before.length)

include whole numbered bound

theorem isRetained_eq_origin {block : BlockIndex} (isData : block < code.dataAfter)
    (row : List NodeId) :
    isRetained code before fanIn.toNat index row block =
      .ok (origin? code before index block.toNat == row[block.toNat]?) := by
  have position := (position_lt whole (UInt16.lt_iff_toNat_lt.mp isData)).1
  have small : UInt32.size < UInt64.size := by decide
  rw [Nat.succ_mul] at bound
  obtain ⟨old, inBefore⟩ : ∃ old,
      before[index * fanIn.toNat + block.toNat / code.dataBefore.toNat]? = some old :=
    ⟨_, List.getElem?_eq_getElem (by omega)⟩
  have origin : origin? code before index block.toNat =
      old[block.toNat % code.dataBefore.toNat]? := by
    rw [origin?, ← whole.fanIn_eq, inBefore]
    rfl
  have first : word (index * fanIn.toNat) = .ok (index * fanIn.toNat) := word_eq (by omega)
  have place : word (index * fanIn.toNat + block.toNat / code.dataBefore.toNat) =
      .ok (index * fanIn.toNat + block.toNat / code.dataBefore.toNat) := word_eq (by omega)
  rw [isRetained, source_eq whole]
  simp only [ok_bind, first, UInt16.toNat_div, place, inBefore, Placement.node?, UInt16.toNat_mod,
    origin, pure_eq]

theorem countStripe_eq (row : List NodeId) :
    countStripe code before fanIn.toNat row index = .ok (retained code before index row) := by
  have decided : (numbersBelow code.dataAfter).mapM (isRetained code before fanIn.toNat index row) =
      .ok ((numbersBelow code.dataAfter).map fun block =>
        origin? code before index block.toNat == row[block.toNat]?) := by
    refine (mapM_congr fun block member => ?_).trans List.mapM_pure
    exact isRetained_eq_origin whole numbered bound (mem_numbersBelow.mp member) row
  rw [countStripe, decided, ok_bind, pure_eq, retained, ← map_toNat_numbersBelow,
    List.countP_map, List.count_eq_countP, List.countP_map]
  simp only [Function.comp_def, beq_true]

end Stripe

theorem countRetained_eq_sum (whole : code.Whole fanIn) (numbered : before.length ≤ UInt32.size)
    (counts : after.length * fanIn.toNat ≤ before.length) :
    countRetained code before after =
      .ok (after.zipIdx.map fun (row, index) => retained code before index row).sum := by
  have divisor : max code.dataBefore 1 = code.dataBefore := by
    rw [← UInt16.toNat_inj, toNat_max]
    exact Nat.max_eq_left whole.dataBefore_pos
  have nonzero : code.dataBefore ≠ 0 := by
    intro zero
    have positive := whole.dataBefore_pos
    simp [zero] at positive
  have fanIn_eq : (code.dataAfter / code.dataBefore).toNat = fanIn.toNat := by
    rw [UInt16.toNat_div, whole.fanIn_eq]
  have steps : ∀ place ∈ after.zipIdx,
      countStripe code before fanIn.toNat place.1 place.2 =
        .ok (retained code before place.2 place.1) := by
    intro place member
    have bound := (List.getElem?_eq_some_iff.mp (List.mk_mem_zipIdx_iff_getElem?.mp member)).1
    exact countStripe_eq whole numbered (Nat.le_trans (Nat.mul_le_mul_right _ bound) counts) place.1
  have fits : 0 + (after.zipIdx.map fun place => retained code before place.2 place.1).sum <
      UInt64.size := by
    have widths : ∀ kept ∈ after.zipIdx.map fun place => retained code before place.2 place.1,
        kept ≤ UInt16.size := by
      intro kept member
      obtain ⟨place, -, same⟩ := List.mem_map.mp member
      rw [← same]
      exact Nat.le_trans (retained_le code before place.2 place.1)
        (Nat.le_of_lt code.dataAfter.toNat_lt_size)
    have total := List.sum_le_card_nsmul _ _ widths
    have rows := Nat.le_mul_of_pos_right after.length whole.fanIn_pos
    rw [List.length_map, List.length_zipIdx, nsmul_eq_mul, Nat.cast_id] at total
    simp only [UInt16.size, UInt32.size, UInt64.size] at numbered total ⊢
    omega
  have counted := foldlM_word steps fits
  rw [Nat.zero_add] at counted
  rw [countRetained, divisor, divide_eq nonzero]
  simp only [ok_bind, fanIn_eq]
  exact counted

/-- No row for a new stripe keeps more data blocks on their nodes than the planned one.  What that
keeps is one block for each node that data blocks of the stripe come from, and these blocks are
counted over all stripes. -/
theorem planTransition_retains_most {nodes : UInt16} {approach : Approach}
    {groups : List StripeGroup}
    (planned : planTransition code nodes approach before = .ok groups) :
    (∀ index group, groups[index]? = some group →
      retained code before index group.nodes = (origins code before index).card ∧
      ∀ row : List NodeId, row.length = code.dataAfter.toNat + code.parityAfter.toNat →
        row.Nodup → (∀ node ∈ row, node < nodes) →
        retained code before index row ≤ retained code before index group.nodes) ∧
    countRetained code before (StripeGroup.placement groups) =
      .ok (groups.zipIdx.map fun (group, index) => retained code before index group.nodes).sum := by
  obtain ⟨fanIn, plannable, count, each⟩ := of_planTransition planned
  refine ⟨fun index group inGroups => ?_, ?_⟩
  · obtain ⟨sources, fromBefore, assigned⟩ := (each index group inGroups).assigned
    obtain ⟨exact, most⟩ := retained_of_assigned fromBefore assigned
    exact ⟨exact, fun row _ distinct _ => most row distinct⟩
  · have counts : (StripeGroup.placement groups).length * fanIn.toNat ≤ before.length := by
      rw [StripeGroup.placement, List.length_map, count]
      exact Nat.div_mul_le_self _ _
    rw [countRetained_eq_sum (Code.fanIn_eq_ok.mp plannable.fanIn_eq)
        (length_le_of_planTransition planned) counts,
      StripeGroup.placement, List.zipIdx_map, List.map_map]
    rfl

/-- The nodes of four data blocks are three different ones, so three of the blocks stay. -/
theorem planTransition_retains_most_displaced :
    planTransition ⟨2, 1, 4, 1⟩ 6 .balanced [[0, 1, 2], [1, 3, 4]] =
        .ok [⟨[0, 1], .parityMerge, [0, 1, 2, 3, 4]⟩] ∧
      retained ⟨2, 1, 4, 1⟩ [[0, 1, 2], [1, 3, 4]] 0 [0, 1, 2, 3, 4] = 3 ∧
      countRetained ⟨2, 1, 4, 1⟩ [[0, 1, 2], [1, 3, 4]] [[0, 1, 2, 3, 4]] = .ok 3 := by
  have planned : planTransition ⟨2, 1, 4, 1⟩ 6 .balanced [[0, 1, 2], [1, 3, 4]] =
      .ok [⟨[0, 1], .parityMerge, [0, 1, 2, 3, 4]⟩] := by decide +kernel
  obtain ⟨each, counted⟩ := planTransition_retains_most planned
  exact ⟨planned, (each 0 _ rfl).1, counted⟩

end Count

end Plan

/-!
## What a plan promises

Where the stripes of a placement form whole groups, the transition can be planned.  The groups take
the stripes in their order, and each assigns as many nodes of the cluster as a new stripe has
blocks.
-/

theorem flatMap_range' (count length : Nat) :
    (List.range count).flatMap (fun index => List.range' (index * length) length)
      = List.range (count * length) := by
  induction count with
  | zero => simp
  | succ count ih =>
      have joined : List.range' 0 (count * length) ++ List.range' (0 + 1 * (count * length)) length
          = List.range' 0 (count * length + length) := List.range'_append
      rw [List.range_succ, List.flatMap_append, ih, List.range_eq_range', List.range_eq_range',
        Nat.succ_mul, ← joined]
      simp

namespace Plan

/-- A plan for the stripes of a placement: whole groups that take the stripes in their order. -/
structure Covers (code : Code) (cluster : Cluster) (fanIn : UInt16) (groups : List StripeGroup) :
    Prop where
  length_eq : groups.length = cluster.stripes.toNat / fanIn.toNat
  admitted : ∀ group ∈ groups,
    (⟨fanIn, code.widthAfter, cluster.nodes⟩ : StripeGroupShape).Admits group
  consumed : (groups.flatMap StripeGroup.contributing).map UInt32.toNat
    = List.range cluster.stripes.toNat

section Covers

variable {code : Code} {cluster : Cluster} {fanIn : UInt16} {before : Placement}
  {groups : List StripeGroup}

theorem Covers.length_placement (covers : Covers code cluster fanIn groups) :
    (StripeGroup.placement groups).length = cluster.stripes.toNat / fanIn.toNat := by
  rw [StripeGroup.placement, List.length_map, covers.length_eq]

theorem Covers.admits_placement (covers : Covers code cluster fanIn groups) :
    ∀ nodes ∈ StripeGroup.placement groups,
      (⟨code.widthAfter, cluster.nodes⟩ : PlacementShape).Admits nodes := by
  intro nodes member
  obtain ⟨group, inGroups, same⟩ := List.mem_map.mp member
  exact same ▸ (covers.admitted group inGroups).nodes

/-- A planned group has the shape of its row in the metadata. -/
theorem Planned.admitted (whole : code.Whole fanIn) {nodes : UInt16} {approach : Approach}
    {index : Nat} {group : StripeGroup}
    (planned : Planned code nodes fanIn approach before index group) :
    (⟨fanIn, code.widthAfter, nodes⟩ : StripeGroupShape).Admits group := by
  obtain ⟨sources, -, assigned⟩ := planned.assigned
  refine ⟨?_, ?_, assigned.bounded⟩
  · simpa using congrArg List.length planned.contributing_eq
  · rw [assigned.length_eq]
    exact whole.widthAfter_eq.symm

section Admits

variable (admits : cluster.Admits code fanIn) (length : before.length = cluster.stripes.toNat)

include admits length

/-- Stripes of the width before the transition have a node for every data block. -/
theorem plannable_of_rows
    (rows : ∀ row ∈ before, (⟨code.widthBefore, cluster.nodes⟩ : PlacementShape).Admits row) :
    Plannable code cluster.nodes fanIn before := by
  have whole := admits.toWhole
  refine ⟨Code.fanIn_eq_ok.mpr whole, admits.widthAfter_le, length ▸ admits.divides, ?_⟩
  intro index bound block isData
  obtain ⟨positionBound, blockBound⟩ := position_lt whole isData
  have last : (index + 1) * fanIn.toNat ≤ before.length :=
    Nat.le_trans (Nat.mul_le_mul_right _ bound) (Nat.div_mul_le_self _ _)
  rw [Nat.succ_mul] at last
  obtain ⟨row, inBefore⟩ :
      ∃ row, before[index * fanIn.toNat + block / code.dataBefore.toNat]? = some row :=
    ⟨_, List.getElem?_eq_getElem (by omega)⟩
  have admitted := rows row (List.mem_of_getElem? inBefore)
  have width : row.length = code.dataBefore.toNat + code.parityBefore.toNat :=
    admitted.length_eq.trans whole.widthBefore_eq
  obtain ⟨node, inRow⟩ : ∃ node, row[block % code.dataBefore.toNat]? = some node :=
    ⟨_, List.getElem?_eq_getElem (by omega)⟩
  refine ⟨node, ?_, admitted.bounded node (List.mem_of_getElem? inRow)⟩
  rw [origin?, ← whole.fanIn_eq, inBefore]
  exact inRow

/-- Planned groups take all stripes in their order. -/
theorem covers_of_planned {approach : Approach}
    (count : groups.length = before.length / fanIn.toNat)
    (planned : ∀ index group, groups[index]? = some group →
      Planned code cluster.nodes fanIn approach before index group) :
    Covers code cluster fanIn groups := by
  rw [length] at count
  refine ⟨count, fun group member => ?_, ?_⟩
  · obtain ⟨index, inGroups⟩ := List.mem_iff_getElem?.mp member
    exact (planned index group inGroups).admitted admits.toWhole
  · have numbers : groups.map (fun group => group.contributing.map UInt32.toNat) =
        (List.range groups.length).map fun index =>
          List.range' (index * fanIn.toNat) fanIn.toNat := by
      refine List.ext_getElem (by simp) fun index inside _ => ?_
      have bound : index < groups.length := by simpa using inside
      simpa using (planned index _ (List.getElem?_eq_getElem bound)).contributing_eq
    calc (groups.flatMap StripeGroup.contributing).map UInt32.toNat
        = (groups.map fun group => group.contributing.map UInt32.toNat).flatten := by
          rw [List.map_flatMap, List.flatMap_def]
      _ = (List.range groups.length).flatMap fun index =>
            List.range' (index * fanIn.toNat) fanIn.toNat := by
          rw [numbers, List.flatMap_def]
      _ = List.range cluster.stripes.toNat := by
          rw [flatMap_range', count, Nat.div_mul_cancel admits.divides]

/-- Where the stripes form whole groups on the cluster, the transition can be planned. -/
theorem exists_planTransition
    (rows : ∀ row ∈ before, (⟨code.widthBefore, cluster.nodes⟩ : PlacementShape).Admits row)
    (approach : Approach) :
    ∃ groups, planTransition code cluster.nodes approach before = .ok groups ∧
      Covers code cluster fanIn groups := by
  have numbered : before.length ≤ UInt32.size := length ▸ Nat.le_of_lt cluster.stripes.toNat_lt
  obtain ⟨groups, success⟩ :=
    (plannable_of_rows admits length rows).exists_groups numbered approach
  obtain ⟨other, plannable, count, planned⟩ := of_planTransition success
  obtain rfl := Except.ok.inj
    (plannable.fanIn_eq.symm.trans (Code.fanIn_eq_ok.mpr admits.toWhole))
  exact ⟨groups, success, covers_of_planned admits length count planned⟩

end Admits

theorem Covers.exists_countRetained (covers : Covers code cluster fanIn groups)
    (whole : code.Whole fanIn) (length : before.length = cluster.stripes.toNat) :
    ∃ retained, countRetained code before (StripeGroup.placement groups) = .ok retained := by
  refine ⟨_, countRetained_eq_sum whole (length ▸ Nat.le_of_lt cluster.stripes.toNat_lt) ?_⟩
  rw [covers.length_placement, length]
  exact Nat.div_mul_le_self _ _

end Covers

end Plan

end Restripe
