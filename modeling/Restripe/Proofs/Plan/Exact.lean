import Restripe.Proofs.Machine
import Restripe.Proofs.Plan.Draft
import Restripe.Proofs.Validation

/-!
# Which transitions are planned, and how

A transition is planned exactly where the code makes whole stripes, the cluster is as wide as a new
stripe, the stripes form whole groups, and the placement has the node of every data block.  The
plan takes the stripes in their order and assigns each group a row by itself.
-/

namespace Restripe

open Outcome

namespace Plan

/-- The node that a data block of a new stripe comes from.  The data of the stripes of a group
follow each other in the new stripe. -/
def origin? (code : Code) (before : Placement) (index block : Nat) : Option NodeId :=
  before[index * (code.dataAfter.toNat / code.dataBefore.toNat)
    + block / code.dataBefore.toNat]? >>= (·[block % code.dataBefore.toNat]?)

/-- The nodes that the data blocks of a new stripe come from. -/
def Sources (code : Code) (before : Placement) (index : Nat) (sources : List NodeId) : Prop :=
  sources.map some = (List.range code.dataAfter.toNat).map (origin? code before index)

/-- Stripes that form whole groups, with a node of the cluster for every data block. -/
structure Plannable (code : Code) (nodes fanIn : UInt16) (before : Placement) : Prop where
  fanIn_eq : code.fanIn = .ok fanIn
  wide : code.dataAfter.toNat + code.parityAfter.toNat ≤ nodes.toNat
  whole : fanIn.toNat ∣ before.length
  known : ∀ index < before.length / fanIn.toNat, ∀ block < code.dataAfter.toNat,
    ∃ node, origin? code before index block = some node ∧ node < nodes

/-- A planned group takes its share of the stripes and assigns a row. -/
structure Planned (code : Code) (nodes fanIn : UInt16) (approach : Approach) (before : Placement)
    (index : Nat) (group : StripeGroup) : Prop where
  method_eq : group.method = code.method approach
  contributing_eq : group.contributing.map UInt32.toNat =
    List.range' (index * fanIn.toNat) fanIn.toNat
  assigned : ∃ sources, Sources code before index sources ∧
    Assigned sources (code.dataAfter.toNat + code.parityAfter.toNat) nodes group.nodes

section Sources

variable {code : Code} {before : Placement} {index : Nat} {sources : List NodeId}

theorem Sources.length_eq (fromBefore : Sources code before index sources) :
    sources.length = code.dataAfter.toNat := by
  simpa using congrArg List.length fromBefore

theorem Sources.getElem?_eq (fromBefore : Sources code before index sources) {block : Nat}
    (isData : block < code.dataAfter.toNat) :
    sources[block]? = origin? code before index block := by
  have same := congrArg (·[block]?) fromBefore
  simp only [List.getElem?_map, List.getElem?_range isData, Option.map_some] at same
  cases found : sources[block]? with
  | none => simp [found] at same
  | some node => simpa [found] using same

end Sources

/-! ## Planning a stripe -/

section Stripe

variable {code : Code} {nodes fanIn : UInt16} {before rows : Placement} {index : Nat}

theorem source_eq (whole : code.Whole fanIn) (block : BlockIndex) :
    code.source block = .ok (block / code.dataBefore, block % code.dataBefore) := by
  have nonzero : code.dataBefore ≠ 0 := by
    intro zero
    have positive := whole.dataBefore_pos
    simp [zero] at positive
  simp [Code.source, Code.source?, nonzero]

/-- A data block of a new stripe comes from a data block of one of its rows. -/
theorem position_lt (whole : code.Whole fanIn) {block : Nat}
    (isData : block < code.dataAfter.toNat) :
    block / code.dataBefore.toNat < fanIn.toNat ∧
      block % code.dataBefore.toNat < code.dataBefore.toNat := by
  rw [Nat.div_lt_iff_lt_mul whole.dataBefore_pos, ← whole.dataAfter_eq]
  exact ⟨isData, Nat.mod_lt _ whole.dataBefore_pos⟩

variable (whole : code.Whole fanIn)
  (run : ∀ position < fanIn.toNat, rows[position]? = before[index * fanIn.toNat + position]?)

include whole run

theorem sourceNode_eq_ok {block : BlockIndex} (isData : block < code.dataAfter) {node : NodeId} :
    sourceNode code nodes rows block = .ok node ↔
      origin? code before index block.toNat = some node ∧ node < nodes := by
  have inGroup := (position_lt whole (UInt16.lt_iff_toNat_lt.mp isData)).1
  have found : rows[(block / code.dataBefore).toNat]? >>=
      (Placement.node? · (block % code.dataBefore)) = origin? code before index block.toNat := by
    rw [UInt16.toNat_div, run _ inGroup, origin?, ← whole.fanIn_eq]
    simp only [Placement.node?, UInt16.toNat_mod]
  rw [sourceNode, source_eq whole]
  simp only [ok_bind, found]
  cases origin? code before index block.toNat with
  | none => simp
  | some other =>
      dsimp only
      split
      · rename_i below
        simp only [pure_eq, Except.ok.injEq, Option.some.injEq, iff_self_and]
        rintro rfl
        exact below
      · rename_i outside
        simp only [throw_eq, reduceCtorEq, Option.some.injEq, false_iff, not_and]
        rintro rfl
        exact outside

/-- Where a row is assigned, the node of every data block is known. -/
theorem of_assign {row : List NodeId} (success : assign code nodes rows = .ok row) :
    (∀ block < code.dataAfter.toNat,
      ∃ node, origin? code before index block = some node ∧ node < nodes) ∧
    ∃ sources, Sources code before index sources ∧
      Assigned sources (code.dataAfter.toNat + code.parityAfter.toNat) nodes row := by
  rw [assign_eq] at success
  obtain ⟨sources, found, filled⟩ := bind_eq_ok.mp success
  have fromBefore : Sources code before index sources := by
    rw [Sources, ← map_toNat_numbersBelow, List.map_map]
    exact map_of_mapM found fun block isData node step =>
      ((sourceNode_eq_ok whole run (mem_numbersBelow.mp isData)).mp step).1.symm
  have below : ∀ node ∈ sources, node < nodes := by
    intro node member
    obtain ⟨block, isData, step⟩ := (mem_of_mapM found node).mp member
    exact ((sourceNode_eq_ok whole run (mem_numbersBelow.mp isData)).mp step).2
  refine ⟨fun block isData => ?_, sources, fromBefore, ?_⟩
  · have inside : block < sources.length := fromBefore.length_eq ▸ isData
    rw [← fromBefore.getElem?_eq isData]
    exact ⟨sources[block], List.getElem?_eq_getElem inside, below _ (List.getElem_mem inside)⟩
  · have extra : code.widthAfter.toNat - code.dataAfter.toNat = code.parityAfter.toNat := by
      rw [whole.widthAfter_eq, Nat.add_sub_cancel_left]
    rw [extra] at filled
    rw [← fromBefore.length_eq]
    exact assigned_of_fills (fills_of_fill filled) below

omit run in
theorem exists_fill_slots (wide : code.dataAfter.toNat + code.parityAfter.toNat ≤ nodes.toNat)
    {sources : List NodeId}
    (found : (numbersBelow code.dataAfter).mapM (sourceNode code nodes rows) = .ok sources) :
    ∃ row, fill (slots sources (code.widthAfter.toNat - code.dataAfter.toNat))
      (unused sources nodes) = .ok row := by
  have length : sources.length = code.dataAfter.toNat := by
    rw [length_of_mapM found, length_numbersBelow]
  have fits : sources.length + (code.widthAfter.toNat - code.dataAfter.toNat) ≤ nodes.toNat := by
    rw [length, whole.widthAfter_eq]
    omega
  exact exists_fill (length_empty_le fits)

/-- Where the node of every data block is known, a row as wide as the cluster at most can be
assigned. -/
theorem exists_assign (wide : code.dataAfter.toNat + code.parityAfter.toNat ≤ nodes.toNat)
    (known : ∀ block < code.dataAfter.toNat,
      ∃ node, origin? code before index block = some node ∧ node < nodes) :
    ∃ row, assign code nodes rows = .ok row := by
  obtain ⟨sources, found⟩ : ∃ sources,
      (numbersBelow code.dataAfter).mapM (sourceNode code nodes rows) = .ok sources := by
    refine exists_mapM fun block member => ?_
    have isData := mem_numbersBelow.mp member
    obtain ⟨node, step⟩ := known block.toNat (UInt16.lt_iff_toNat_lt.mp isData)
    exact ⟨node, (sourceNode_eq_ok whole run isData).mpr step⟩
  obtain ⟨row, filled⟩ := exists_fill_slots whole wide found
  exact ⟨row, by rw [assign_eq, found]; exact filled⟩

/-- A planned group is one as the plan promises. -/
theorem of_group {approach : Approach} {group : StripeGroup}
    (success : Plan.group code nodes approach fanIn.toNat rows index = .ok group) :
    (∀ block < code.dataAfter.toNat,
      ∃ node, origin? code before index block = some node ∧ node < nodes) ∧
    Planned code nodes fanIn approach before index group := by
  obtain ⟨first, fits, success⟩ := bind_eq_ok.mp success
  obtain ⟨numbers, ranged, success⟩ := bind_eq_ok.mp success
  obtain ⟨contributing, counted, success⟩ := bind_eq_ok.mp success
  obtain ⟨row, assigned, same⟩ := bind_eq_ok.mp success
  obtain rfl := Except.ok.inj same
  obtain ⟨known, promised⟩ := of_assign whole run assigned
  refine ⟨known, rfl, ?_, promised⟩
  rw [(word_eq_ok.mp fits).2, ← wordsFrom_eq_ok ranged, ← List.map_id numbers]
  exact map_of_mapM counted fun number _ stripe step => stripeAt_eq_ok.mp step

omit whole run in
/-- As long as the stripes can be numbered, a group is planned where its row is. -/
theorem exists_group_eq (numbered : (index + 1) * fanIn.toNat ≤ UInt32.size)
    (approach : Approach) :
    ∃ contributing, Plan.group code nodes approach fanIn.toNat rows index =
      (do return ⟨contributing, code.method approach, ← assign code nodes rows⟩) := by
  rw [Nat.succ_mul] at numbered
  have small : UInt32.size < UInt64.size := by decide
  obtain ⟨contributing, counted⟩ : ∃ contributing,
      (List.range' (index * fanIn.toNat) fanIn.toNat).mapM stripeAt = .ok contributing := by
    refine exists_mapM fun number member => ?_
    have bound := (List.mem_range'_1.mp member).2
    exact ⟨UInt32.ofNat number, stripeAt_eq_ok.mpr (UInt32.toNat_ofNat_of_lt' (by omega))⟩
  refine ⟨contributing, ?_⟩
  rw [Plan.group, word_eq (by omega), ok_bind, wordsFrom_eq (by omega), ok_bind, counted, ok_bind]

theorem exists_group (wide : code.dataAfter.toNat + code.parityAfter.toNat ≤ nodes.toNat)
    (known : ∀ block < code.dataAfter.toNat,
      ∃ node, origin? code before index block = some node ∧ node < nodes)
    (numbered : (index + 1) * fanIn.toNat ≤ UInt32.size) (approach : Approach) :
    ∃ group, Plan.group code nodes approach fanIn.toNat rows index = .ok group := by
  obtain ⟨contributing, planned⟩ := exists_group_eq numbered approach
  obtain ⟨row, assigned⟩ := exists_assign whole run wide known
  exact ⟨⟨contributing, code.method approach, row⟩, by rw [planned, assigned]; rfl⟩

end Stripe

/-! ## Planning a transition -/

section Transition

variable {code : Code} {nodes fanIn : UInt16} {approach : Approach} {before : Placement}
  {groups : List StripeGroup}

/-- A transition is planned run by run where the parameters fit each other. -/
theorem planTransition_eq_ok : planTransition code nodes approach before = .ok groups ↔
    ∃ fanIn runs, code.fanIn = .ok fanIn ∧
      code.dataAfter.toNat + code.parityAfter.toNat ≤ nodes.toNat ∧
      fanIn.toNat ∣ before.length ∧ chunks fanIn.toNat before = .ok runs ∧
      runs.zipIdx.mapM (fun (rows, index) =>
        Plan.group code nodes approach fanIn.toNat rows index) = .ok groups := by
  rw [planTransition, bind_eq_ok]
  constructor
  · rintro ⟨fanIn, quotient, success⟩
    have whole := Code.fanIn_eq_ok.mp quotient
    simp only [throw_eq, error_bind, divide_eq (Nat.ne_of_gt whole.fanIn_pos), ok_bind] at success
    split at success
    · cases success
    · split at success
      · cases success
      · rename_i wide even
        rw [UInt16.lt_iff_toNat_lt, whole.widthAfter_eq, Nat.not_lt] at wide
        obtain ⟨runs, cut, success⟩ := bind_eq_ok.mp success
        exact ⟨fanIn, runs, quotient, wide,
          Nat.dvd_of_mod_eq_zero (Decidable.not_not.mp even), cut, success⟩
  · rintro ⟨fanIn, runs, quotient, wide, divides, cut, success⟩
    have whole := Code.fanIn_eq_ok.mp quotient
    have wide : ¬nodes < code.widthAfter := by
      rwa [UInt16.lt_iff_toNat_lt, whole.widthAfter_eq, Nat.not_lt]
    refine ⟨fanIn, quotient, ?_⟩
    simp only [if_neg wide, divide_eq (Nat.ne_of_gt whole.fanIn_pos), ok_bind,
      Nat.mod_eq_zero_of_dvd divides, ne_eq, not_true_eq_false, if_false, cut]
    exact success

/-- What is planned could be planned, and is what a plan promises. -/
theorem of_planTransition (planned : planTransition code nodes approach before = .ok groups) :
    ∃ fanIn, Plannable code nodes fanIn before ∧
      groups.length = before.length / fanIn.toNat ∧
      ∀ index group, groups[index]? = some group →
        Planned code nodes fanIn approach before index group := by
  obtain ⟨fanIn, runs, quotient, wide, divides, cut, success⟩ := planTransition_eq_ok.mp planned
  have whole := Code.fanIn_eq_ok.mp quotient
  obtain ⟨others, same, count, places⟩ := exists_chunks whole.fanIn_pos divides
  obtain rfl := Except.ok.inj (cut.symm.trans same)
  have length : groups.length = before.length / fanIn.toNat := by
    rw [length_of_mapM success, List.length_zipIdx, count]
  have each (index : Nat) (group : StripeGroup) (inGroups : groups[index]? = some group) :
      (∀ block < code.dataAfter.toNat,
        ∃ node, origin? code before index block = some node ∧ node < nodes) ∧
      Planned code nodes fanIn approach before index group := by
    obtain ⟨⟨rows, number⟩, isPlace, step⟩ := getElem?_of_mapM success inGroups
    obtain ⟨inRuns, rfl⟩ : runs[index]? = some rows ∧ index = number := by
      simpa [List.getElem?_zipIdx] using isPlace
    exact of_group whole (places index rows inRuns) step
  refine ⟨fanIn, ⟨quotient, wide, divides, fun index bound => ?_⟩, length,
    fun index group inGroups => (each index group inGroups).2⟩
  rw [← length] at bound
  exact (each index _ (List.getElem?_eq_getElem bound)).1

theorem length_le_of_planTransition
    (planned : planTransition code nodes approach before = .ok groups) :
    before.length ≤ UInt32.size := by
  obtain ⟨fanIn, plannable, count, each⟩ := of_planTransition planned
  have positive := (Code.fanIn_eq_ok.mp plannable.fanIn_eq).fanIn_pos
  have whole := Nat.div_mul_cancel plannable.whole
  rw [← count] at whole
  cases length : groups.length with
  | zero => simp [← whole, length]
  | succ last =>
      have inGroups := List.getElem?_eq_getElem (show last < groups.length by omega)
      have contributing := (each last _ inGroups).contributing_eq
      rw [length, Nat.succ_mul] at whole
      -- The last stripe of the last group is the last one of all.
      have member : before.length - 1 ∈ List.range' (last * fanIn.toNat) fanIn.toNat :=
        List.mem_range'_1.mpr ⟨by omega, by omega⟩
      rw [← contributing] at member
      obtain ⟨stripe, -, same⟩ := List.mem_map.mp member
      have bound := stripe.toNat_lt_size
      omega

/-- Stripes that can be numbered are planned where a transition of theirs can be. -/
theorem Plannable.exists_groups (plannable : Plannable code nodes fanIn before)
    (numbered : before.length ≤ UInt32.size) (approach : Approach) :
    ∃ groups, planTransition code nodes approach before = .ok groups := by
  have whole := Code.fanIn_eq_ok.mp plannable.fanIn_eq
  obtain ⟨runs, cut, count, places⟩ := exists_chunks whole.fanIn_pos plannable.whole
  obtain ⟨groups, success⟩ : ∃ groups, runs.zipIdx.mapM (fun (rows, index) =>
      Plan.group code nodes approach fanIn.toNat rows index) = .ok groups := by
    refine exists_mapM fun place member => ?_
    have inRuns := List.mk_mem_zipIdx_iff_getElem?.mp member
    have bound := (List.getElem?_eq_some_iff.mp inRuns).1
    rw [count] at bound
    refine exists_group whole (places place.2 place.1 inRuns) plannable.wide
      (plannable.known place.2 bound) ?_ approach
    calc (place.2 + 1) * fanIn.toNat
        ≤ before.length / fanIn.toNat * fanIn.toNat := Nat.mul_le_mul_right _ bound
      _ ≤ before.length := Nat.div_mul_le_self _ _
      _ ≤ UInt32.size := numbered
  exact ⟨groups, planTransition_eq_ok.mpr
    ⟨fanIn, runs, plannable.fanIn_eq, plannable.wide, plannable.whole, cut, success⟩⟩

/-- As long as the stripes can be numbered, a transition of theirs is planned exactly where it can
be.  The plan has a group for every new stripe, in their order, and the row of a group follows from
the nodes that its data blocks come from. -/
theorem planTransition_exact (code : Code) (nodes : UInt16) (approach : Approach)
    (before : Placement) (numbered : before.length ≤ UInt32.size) :
    ((∃ groups, planTransition code nodes approach before = .ok groups) ↔
      ∃ fanIn, Plannable code nodes fanIn before) ∧
    ∀ groups, planTransition code nodes approach before = .ok groups →
      ∃ fanIn, code.fanIn = .ok fanIn ∧ groups.length = before.length / fanIn.toNat ∧
        ∀ index group, groups[index]? = some group →
          Planned code nodes fanIn approach before index group := by
  refine ⟨⟨?_, ?_⟩, fun groups planned => ?_⟩
  · rintro ⟨groups, planned⟩
    obtain ⟨fanIn, plannable, -⟩ := of_planTransition planned
    exact ⟨fanIn, plannable⟩
  · rintro ⟨fanIn, plannable⟩
    exact plannable.exists_groups numbered approach
  · obtain ⟨fanIn, plannable, promised⟩ := of_planTransition planned
    exact ⟨fanIn, plannable.fanIn_eq, promised⟩

/-- Of two blocks from node 1 the second gives way to the lowest free node, the parity block takes
the next one, and the block from node 3 stays. -/
theorem planTransition_exact_displaced :
    ([[0, 1, 2], [1, 3, 4]] : Placement).length ≤ UInt32.size ∧
      planTransition ⟨2, 1, 4, 1⟩ 6 .balanced [[0, 1, 2], [1, 3, 4]] =
        .ok [⟨[0, 1], .parityMerge, [0, 1, 2, 3, 4]⟩] ∧
      Planned ⟨2, 1, 4, 1⟩ 6 2 .balanced [[0, 1, 2], [1, 3, 4]] 0
        ⟨[0, 1], .parityMerge, [0, 1, 2, 3, 4]⟩ := by
  have planned : planTransition ⟨2, 1, 4, 1⟩ 6 .balanced [[0, 1, 2], [1, 3, 4]] =
      .ok [⟨[0, 1], .parityMerge, [0, 1, 2, 3, 4]⟩] := by decide +kernel
  obtain ⟨fanIn, quotient, -, promised⟩ :=
    (planTransition_exact ⟨2, 1, 4, 1⟩ 6 .balanced [[0, 1, 2], [1, 3, 4]] (by decide)).2 _ planned
  obtain rfl : fanIn = 2 := (Except.ok.inj quotient).symm
  exact ⟨by decide, planned, promised 0 _ rfl⟩

end Transition

end Plan

end Restripe
