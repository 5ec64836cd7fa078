import Restripe.Proofs.Reconcile.Failure

/-!
# Plans are accepted

A plan can be written and read back, it passes the check of the artifacts, and it is reconciled with
any table that knows the files of the data blocks.
-/

/-!
## Data blocks that stay in place

The counters of a reconciliation can be told from its table.  A data block counts as retained where
its entry is on the node that the table before records of its source.  A plan counts the same blocks
from the two placements alone, so where table and placement agree, so do the counts.
-/

namespace Restripe

open Outcome

/-- The table has a named file of every old data block, on the node that a placement says. -/
def Reconciliation.Records (input : Reconciliation) (before : Placement) : Prop :=
  ∀ source ∈ input.oldData, ∃ entry path name, input.before.find? source = some entry ∧
    before.holder? source = some entry.node ∧ entry.location = .stored path ∧
    path.fileName? = some name

open Reconciliation

section Retained

variable {available : Nat} {input : Reconciliation} {result : Reconciled}

/-! ### The table and the counters -/

theorem keys_of_reconcile (success : reconcile available input = .ok result) :
    (result.table.entries.map Entry.key).Perm input.placement.keys := by
  obtain ⟨fanIn, stripes, checked, reconciled, -, built⟩ := reconcile_eq_ok.mp success
  have inserted := ProvenanceTable.foldlM_insert_perm built
  rw [← keys_entries checked reconciled]
  exact inserted.map Entry.key

theorem value_of_reconcile (success : reconcile available input = .ok result) (counter : Counter) :
    (result.stats.value counter).toNat =
      (input.groups.countP fun group => group.method.counter = counter) +
        result.table.entries.countP fun entry => counter ∈ input.recount entry := by
  obtain ⟨fanIn, stripes, checked, reconciled, counted, built⟩ := reconcile_eq_ok.mp success
  have inserted := ProvenanceTable.foldlM_insert_perm built
  rw [stats_eq_ok.mp counted counter, count_counts checked reconciled, count_flatMap_recount,
    List.count_eq_countP, List.countP_map, inserted.countP_eq]
  rfl

theorem value_of_reconcile_of_blocks (success : reconcile available input = .ok result)
    (counter : Counter) (ofBlocks : ∀ method : EncodeMethod, method.counter ≠ counter)
    {counts : Entry → Bool}
    (counts_iff : ∀ entry, counter ∈ input.recount entry ↔ counts entry = true) :
    (result.stats.value counter).toNat = result.table.entries.countP counts := by
  have noGroup : (input.groups.countP fun group => group.method.counter = counter) = 0 := by
    apply List.countP_eq_zero.mpr
    intro group _
    simpa using ofBlocks group.method
  rw [value_of_reconcile success, noGroup, Nat.zero_add]
  apply List.countP_congr
  intro entry _
  rw [decide_eq_true_eq, counts_iff]

/-! ### Blocks that stay -/

/-- The retained blocks are the data blocks of the new table on the node of their source. -/
theorem retained_of_reconcile (success : reconcile available input = .ok result) :
    result.stats.retained.toNat =
      result.table.entries.countP fun entry => input.retains entry.key entry.node :=
  value_of_reconcile_of_blocks success .retained
    (fun method => by cases method <;> simp [EncodeMethod.counter])
    fun _ => mem_recount

theorem retained_of_managed (managed : input.managed = true)
    (success : reconcile available input = .ok result) : result.stats.retained.toNat = 0 := by
  rw [retained_of_reconcile success, List.countP_eq_zero]
  intro entry _
  simp [retains, managed]

/-- The retained blocks are the blocks of the placement that have their node already. -/
theorem retained_of_reconcile_keys (success : reconcile available input = .ok result) :
    result.stats.retained.toNat = input.placement.keys.countP fun key =>
      (input.placement.holder? key).any (input.retains key) := by
  rw [retained_of_reconcile success, ← (keys_of_reconcile success).countP_eq, List.countP_map]
  apply List.countP_congr
  intro entry member
  have holder := (located_of_reconcile success member).1
  simp [holder]

end Retained

/-!
## Sources of a plan

The planner, its count of the blocks that stay in place, and the reconciliation work out the source
of a block each for itself; as group `index` takes the stripes from `index * fanIn` on, they all
come to the same block.
-/

/-- Lists of one length that together hold the numbers from `start` on hold a run of them each. -/
theorem eq_range'_of_flatten {length start index : Nat} {lists : List (List Nat)} {list : List Nat}
    (lengths : ∀ list ∈ lists, list.length = length)
    (numbers : lists.flatten = List.range' start (lists.length * length))
    (inLists : lists[index]? = some list) : list = List.range' (start + index * length) length := by
  induction lists generalizing start index with
  | nil => simp at inLists
  | cons head tail ih =>
      have joined : List.range' start length ++
          List.range' (start + 1 * length) (tail.length * length) =
            List.range' start (length + tail.length * length) := List.range'_append
      rw [List.flatten_cons, List.length_cons, Nat.succ_mul, Nat.add_comm, ← joined] at numbers
      have headLength : head.length = (List.range' start length).length := by
        rw [lengths head List.mem_cons_self, List.length_range']
      obtain ⟨first, others⟩ := List.append_inj numbers headLength
      cases index with
      | zero =>
          obtain rfl : head = list := by simpa using inLists
          simpa using first
      | succ index =>
          rw [Nat.one_mul] at others
          rw [ih (fun other member => lengths other (List.mem_cons_of_mem head member)) others
            inLists, Nat.succ_mul]
          congr 1
          omega

namespace Plan

variable {code : Code} {cluster : Cluster} {fanIn : UInt16} {before : Placement}
  {groups : List StripeGroup} {group : StripeGroup}

/-- A planned group takes a run of stripes. -/
theorem Covers.numbers (covers : Covers code cluster fanIn groups)
    (admits : cluster.Admits code fanIn) {index : Nat} (inGroups : groups[index]? = some group) :
    group.contributing.map UInt32.toNat = List.range' (index * fanIn.toNat) fanIn.toNat := by
  have lengths : ∀ list ∈ groups.map fun group => group.contributing.map UInt32.toNat,
      list.length = fanIn.toNat := by
    intro list member
    obtain ⟨group, inGroups, rfl⟩ := List.mem_map.mp member
    rw [List.length_map, (covers.admitted group inGroups).contributing]
  have numbers : (groups.map fun group => group.contributing.map UInt32.toNat).flatten =
      List.range' 0 ((groups.map fun group => group.contributing.map UInt32.toNat).length *
        fanIn.toNat) := by
    rw [← List.flatMap_def, ← List.map_flatMap, covers.consumed, List.range_eq_range',
      List.length_map, covers.length_eq, Nat.div_mul_cancel admits.divides]
  have found := eq_range'_of_flatten lengths numbers
    (by rw [List.getElem?_map, inGroups, Option.map_some])
  rwa [Nat.zero_add] at found

/-- The stripe at a position of a planned group. -/
theorem Covers.toNat_contributing (covers : Covers code cluster fanIn groups)
    (admits : cluster.Admits code fanIn) {index position : Nat}
    (inGroups : groups[index]? = some group) {stripe : StripeId}
    (contributes : group.contributing[position]? = some stripe) :
    stripe.toNat = index * fanIn.toNat + position := by
  have bound := (List.getElem?_eq_some_iff.mp contributes).1
  have numbers := congrArg (·[position]?) (covers.numbers admits inGroups)
  have member := List.mem_of_getElem? inGroups
  rw [(covers.admitted group member).contributing] at bound
  simp only [List.getElem?_map, contributes, Option.map_some, List.getElem?_range' bound,
    Option.some_inj] at numbers
  omega

end Plan

section Count

variable {input : Reconciliation} {fanIn : UInt16} {before : Placement} {index : Nat}

/-- Of the blocks of a stripe only data blocks have their node already. -/
theorem countP_retains_row (checked : input.Checked fanIn) {nodes : List NodeId}
    (inPlacement : input.placement[index]? = some nodes) :
    (Placement.rowKeys index nodes.length).countP
        (fun key => (input.placement.holder? key).any (input.retains key)) =
      (List.range input.code.dataAfter.toNat).countP fun block =>
        nodes[block]?.any (input.retains (.ofIndices index block)) := by
  have wide := checked.length_row (List.mem_of_getElem? inPlacement)
  have bound := (List.getElem?_eq_some_iff.mp inPlacement).1
  have fits : index < UInt32.size := Nat.lt_of_lt_of_le bound checked.addressable.stripes
  have whole := checked.admits.toWhole
  have parity : (List.range' input.code.dataAfter.toNat input.code.parityAfter.toNat).countP
      (fun block => nodes[block]?.any (input.retains (.ofIndices index block))) = 0 := by
    refine List.countP_eq_zero.mpr fun block member => ?_
    obtain ⟨least, most⟩ := List.mem_range'_1.mp member
    have blockFits : block < UInt16.size := Nat.lt_trans most whole.widthAfter_lt
    have isParity : ¬(BlockKey.ofIndices index block).block < input.code.dataAfter := by
      rw [UInt16.lt_iff_toNat_lt, BlockKey.toNat_block_ofIndices index blockFits]
      omega
    cases nodes[block]? <;> simp [Reconciliation.retains, isParity]
  have sameHolder : ∀ block ∈ List.range nodes.length,
      input.placement.holder? (.ofIndices index block) = nodes[block]? := by
    intro block member
    have blockFits : block < UInt16.size := by
      rw [List.mem_range, wide] at member
      exact Nat.lt_trans member input.code.widthAfter.toNat_lt
    simp [Placement.holder?, Placement.node?, BlockKey.toNat_stripe_ofIndices fits,
      BlockKey.toNat_block_ofIndices index blockFits, inPlacement]
  calc (Placement.rowKeys index nodes.length).countP
        (fun key => (input.placement.holder? key).any (input.retains key))
      = (List.range nodes.length).countP fun block =>
          nodes[block]?.any (input.retains (.ofIndices index block)) := by
        rw [Placement.rowKeys, List.countP_map]
        refine List.countP_congr fun block member => ?_
        rw [Function.comp_apply, sameHolder block member]
    _ = (List.range input.code.dataAfter.toNat).countP fun block =>
          nodes[block]?.any (input.retains (.ofIndices index block)) := by
        rw [wide, whole.widthAfter_eq, List.range_eq_range', ← List.range'_append_1,
          List.countP_append, Nat.zero_add, parity, Nat.add_zero, ← List.range_eq_range']

variable (checked : input.Checked fanIn)
  (covers : Plan.Covers input.code input.cluster fanIn input.groups)
  (unmanaged : input.managed = false) (records : input.Records before)

include checked covers unmanaged records

/-- The planner and the reconciliation agree on whether a block has its node already. -/
theorem origin?_beq {group : StripeGroup} (inGroups : input.groups[index]? = some group)
    {block : Nat} (isData : block < input.code.dataAfter.toNat) :
    (Plan.origin? input.code before index block == group.nodes[block]?) =
      group.nodes[block]?.any (input.retains (.ofIndices index block)) := by
  have stripeValue := BlockKey.toNat_stripe_ofIndices (checked.stripe_lt inGroups) block
  have blockValue := BlockKey.toNat_block_ofIndices index
    (Nat.lt_trans isData input.code.dataAfter.toNat_lt)
  have isNewData : (BlockKey.ofIndices index block).block < input.code.dataAfter := by
    rw [UInt16.lt_iff_toNat_lt, blockValue]
    exact isData
  have isNew : .ofIndices index block ∈ input.newData := by
    rw [checked.mem_newData, stripeValue]
    exact ⟨(List.getElem?_eq_some_iff.mp inGroups).1, isNewData⟩
  obtain ⟨source, carried⟩ := checked.exists_source? isNew
  obtain ⟨entry, path, name, recorded, holder, -⟩ :=
    records source (checked.source?_mem_oldData carried)
  obtain ⟨other, inOther, contributes, index_eq⟩ := Reconciliation.source?_eq_some.mp carried
  rw [stripeValue, inGroups, Option.some_inj] at inOther
  subst inOther
  rw [blockValue] at contributes
  obtain ⟨row, inBefore, inRow⟩ := Placement.holder?_eq_some.mp holder
  rw [covers.toNat_contributing checked.admits inGroups contributes] at inBefore
  rw [← index_eq, UInt16.toNat_mod, blockValue] at inRow
  have origin : Plan.origin? input.code before index block = some entry.node := by
    rw [Plan.origin?, ← checked.admits.fanIn_eq, inBefore]
    exact inRow
  rw [origin]
  cases group.nodes[block]? with
  | none => rfl
  | some node => simp [Reconciliation.retains, unmanaged, isNewData, carried, recorded]

/-- The planner counts the blocks of a stripe that have their node already. -/
theorem retained_eq {nodes : List NodeId} (inPlacement : input.placement[index]? = some nodes) :
    Plan.retained input.code before index nodes =
      (Placement.rowKeys index nodes.length).countP fun key =>
        (input.placement.holder? key).any (input.retains key) := by
  obtain ⟨group, inGroups, rfl⟩ := Option.map_eq_some_iff.mp
    ((checked.placement_getElem? index).symm.trans inPlacement)
  rw [countP_retains_row checked inPlacement, Plan.retained]
  refine List.countP_congr fun block member => ?_
  rw [origin?_beq checked covers unmanaged records inGroups (List.mem_range.mp member)]

/-- The planner counts the blocks of the placement that have their node already. -/
theorem countRetained_eq (length : before.length = input.cluster.stripes.toNat) :
    Plan.countRetained input.code before input.placement =
      .ok (input.placement.keys.countP fun key =>
        (input.placement.holder? key).any (input.retains key)) := by
  have counts : input.placement.length * fanIn.toNat ≤ before.length := by
    rw [checked.length_placement, length]
    exact Nat.div_mul_le_self _ _
  rw [Plan.countRetained_eq_sum checked.admits.toWhole
      (length ▸ Nat.le_of_lt input.cluster.stripes.toNat_lt) counts,
    Placement.keys, List.countP_flatMap]
  congr 2
  refine List.map_congr_left fun place member => ?_
  exact retained_eq checked covers unmanaged records (List.mk_mem_zipIdx_iff_getElem?.mp member)

end Count

/-! ### From the plan to the table -/

section Accepted

variable {input : Reconciliation} {fanIn : UInt16} {before : Placement}

/-- A plan is reconciled with a table that knows the files of the data blocks, and the statistics
hold the count of the planner.  An outside catalog is asked nothing, and nothing is known to stay in
place. -/
theorem exists_reconcile_of_covers
    (covers : Plan.Covers input.code input.cluster fanIn input.groups)
    (checked : input.Checked fanIn) (length : before.length = input.cluster.stripes.toNat)
    (records : input.managed = false → input.Records before) {retained : Nat}
    (counted : Plan.countRetained input.code before input.placement = .ok retained)
    (available : Nat) :
    ∃ result, reconcile available input = .ok result ∧
      result.stats.retained.toNat = if input.managed then 0 else retained := by
  obtain ⟨result, success⟩ := exists_reconcile checked available (by
    intro unmanaged source isOld
    obtain ⟨entry, path, name, recorded, -, stored, named⟩ := records unmanaged source isOld
    refine ⟨entry, recorded, fun other otherStored => ⟨name, ?_⟩⟩
    exact Location.stored.inj (stored.symm.trans otherStored) ▸ named)
  refine ⟨result, success, ?_⟩
  cases managed : input.managed with
  | true => exact retained_of_managed managed success
  | false =>
      rw [countRetained_eq checked covers managed (records managed) length] at counted
      rw [retained_of_reconcile_keys success, Except.ok.inj counted]
      rfl

end Accepted

section Planned

variable {code : Code} {cluster : Cluster} {fanIn : UInt16} {before : Placement}

/-- Where a cluster admits a code, every placement of its stripes can be planned.  The two artifacts
of the plan are read back as they are written, they pass the check, and they are reconciled with any
table that has a named file of each old data block on the node of the placement.  The statistics
then hold the count of the planner; with an outside catalog no table is needed, and no block is
known to stay in place. -/
theorem plan_accepted (valid : cluster.validate code = .ok fanIn)
    (length : before.length = cluster.stripes.toNat)
    (rows : ∀ row ∈ before, (⟨code.widthBefore, cluster.nodes⟩ : PlacementShape).Admits row)
    (approach : Approach) :
    ∃ groups retained, planTransition code cluster.nodes approach before = .ok groups ∧
      Plan.countRetained code before (StripeGroup.placement groups) = .ok retained ∧
      Placement.parse ⟨code.widthAfter, cluster.nodes⟩
        (Utf8.encode (StripeGroup.placement groups).render) = .ok (StripeGroup.placement groups) ∧
      (∃ shape, StripeGroupShape.ofCode code cluster.nodes = .ok shape ∧
        StripeGroup.parse shape (Utf8.encode (StripeGroup.render groups)) = .ok groups) ∧
      ∀ (table : ProvenanceTable) (dataDirectory : Path) (managed : Bool) (workers : UInt64),
        let input : Reconciliation := {
          code, cluster, before := table, placement := StripeGroup.placement groups, groups,
          dataDirectory, managed, workers }
        input.checkArtifacts fanIn = .ok () ∧
          ((managed = false → input.Records before) → ∀ available,
            ∃ result, reconcile available input = .ok result ∧
              result.stats.retained.toNat = if managed then 0 else retained) := by
  have admits := Cluster.validate_eq_ok.mp valid
  obtain ⟨groups, planned, covers⟩ := Plan.exists_planTransition admits length rows approach
  obtain ⟨retained, counted⟩ := covers.exists_countRetained admits.toWhole length
  have nonempty : 0 < code.widthAfter.toNat := by
    rw [admits.widthAfter_eq]
    exact Nat.add_pos_left admits.dataAfter_pos _
  refine ⟨groups, retained, planned, counted,
    Placement.parse_render nonempty covers.admits_placement,
    ⟨_, StripeGroupShape.ofCode_eq_ok admits.toWhole _, StripeGroup.parse_render covers.admitted⟩,
    fun table dataDirectory managed workers => ?_⟩
  let input : Reconciliation := {
    code, cluster, before := table, placement := StripeGroup.placement groups, groups,
    dataDirectory, managed, workers }
  have checked : input.Checked fanIn := covers.checked admits rfl
  exact ⟨(checks_eq_ok.mpr checked).2, fun records available =>
    exists_reconcile_of_covers covers checked length records counted available⟩

end Planned

theorem records_swapped {input : Reconciliation} (before : input.before = swapped.before)
    (code : input.code = swapped.code) (cluster : input.cluster = swapped.cluster) :
    input.Records [[0, 1], [1, 2]] := by
  intro source isOld
  rw [mem_oldData, code, cluster] at isOld
  obtain ⟨stripe, block⟩ := source
  obtain ⟨stripeBound, blockBound⟩ := isOld
  have first : block = 0 := UInt16.toNat_inj.mp (by simpa [swapped] using blockBound)
  have either : stripe = 0 ∨ stripe = 1 := by
    have small : stripe.toNat < 2 := stripeBound
    rw [← UInt32.toNat_inj, ← UInt32.toNat_inj]
    simp only [UInt32.toNat_zero, UInt32.toNat_one]
    omega
  rw [before]
  subst first
  rcases either with rfl | rfl
  · exact ⟨_, ⟨[100, 47, 97]⟩, [97], rfl, rfl, rfl, by decide⟩
  · exact ⟨_, ⟨[100, 47, 98]⟩, [98], rfl, rfl, rfl, by decide⟩

theorem plan_accepted_swapped :
    ∃ groups retained result,
      planTransition swapped.code 3 .balanced [[0, 1], [1, 2]] = .ok groups ∧
      Plan.countRetained swapped.code [[0, 1], [1, 2]] (StripeGroup.placement groups) =
        .ok retained ∧
      reconcile 1 { swapped with placement := StripeGroup.placement groups, groups } = .ok result ∧
      result.stats.retained.toNat = retained := by
  have valid : swapped.cluster.validate swapped.code = .ok 2 := rfl
  have rows : ∀ row ∈ ([[0, 1], [1, 2]] : Placement),
      (⟨swapped.code.widthBefore, swapped.cluster.nodes⟩ : PlacementShape).Admits row := by
    simp only [List.forall_mem_cons]
    exact ⟨⟨rfl, by simp [swapped]⟩, ⟨rfl, by simp [swapped]⟩, by simp⟩
  obtain ⟨groups, retained, planned, counted, -, -, accepted⟩ :=
    plan_accepted valid rfl rows .balanced
  obtain ⟨result, success, same⟩ := (accepted swapped.before swapped.dataDirectory false 1).2
    (fun _ => records_swapped rfl rfl rfl) 1
  exact ⟨groups, retained, result, planned, counted, success, same⟩

/-- With an outside catalog no block is known to stay in place, whatever the table says: the plan
keeps two data blocks on their nodes, and none is counted as retained. -/
theorem plan_retained_unknown :
    ∃ groups, planTransition swapped.code 3 .balanced [[0, 1], [1, 2]] = .ok groups ∧
      Plan.countRetained swapped.code [[0, 1], [1, 2]] (StripeGroup.placement groups) = .ok 2 ∧
      let input : Reconciliation :=
        { swapped with placement := StripeGroup.placement groups, groups, managed := true }
      input.Records [[0, 1], [1, 2]] ∧
        ∃ result, reconcile 1 input = .ok result ∧ result.stats.retained.toNat = 0 := by
  have planned : planTransition swapped.code 3 .balanced [[0, 1], [1, 2]] =
      .ok [⟨[0, 1], .parityMerge, [0, 1, 2]⟩] := by decide +kernel
  obtain ⟨result, success⟩ := Outcome.exists_eq_ok (reconcile 1 { swapped with
    placement := [[0, 1, 2]], groups := [⟨[0, 1], .parityMerge, [0, 1, 2]⟩], managed := true })
    (by decide)
  exact ⟨_, planned, by decide, records_swapped rfl rfl rfl, result, success,
    retained_of_managed rfl success⟩

end Restripe
