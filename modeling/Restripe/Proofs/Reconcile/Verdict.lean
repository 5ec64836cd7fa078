import Restripe.Proofs.Reconcile.Failure

/-!
# The verdict of a reconciliation

Whether a reconciliation succeeds can be told from its input: the cluster has to admit the code, the
artifacts have to agree and to consume every old stripe once, and every old data block that no
outside catalog knows has to be carried over.  Where it fails, the first of these that does not hold
is reported, and of the blocks that cannot be carried over the first by stripe and block.
-/

namespace Restripe

open Outcome

namespace Reconciliation

/-- Artifacts that agree: a row and a group for every new stripe, each group of the size that the
code asks for and on the nodes of its row, and every old stripe in one place of one group. -/
structure Agrees (input : Reconciliation) (fanIn : UInt16) : Prop where
  rows : input.groups.length = input.placement.length
  count : input.groups.length = input.cluster.stripes.toNat / fanIn.toNat
  contributing : ∀ group ∈ input.groups, group.contributing.length = fanIn.toNat
  width : ∀ group ∈ input.groups,
    group.nodes.length = input.code.dataAfter.toNat + input.code.parityAfter.toNat
  row : ∀ (index : Nat) (group : StripeGroup), input.groups[index]? = some group →
    input.placement[index]? = some group.nodes
  consumed : (input.consumed.map UInt32.toNat).Perm (List.range input.cluster.stripes.toNat)

/-- An old block can be carried over where it is recorded, and waits for an outside catalog or is in
a file that has a name. -/
def Carried (input : Reconciliation) (source : BlockKey) : Prop :=
  ∃ before, input.before.find? source = some before ∧
    ((∃ awaited, before.location = .pending awaited) ∨
      ∃ path name, before.location = .stored path ∧ path.fileName? = some name)

/-- A new data block whose source cannot be carried over, the first by stripe and block, with the
error for that source. -/
structure FirstUncarried (input : Reconciliation) (key : BlockKey) (error : Error) : Prop where
  isNew : key ∈ input.newData
  uncarried : ∃ source, input.source? key = some source ∧ Uncarried input source error
  earlier : ∀ other ∈ input.newData, other < key →
    ∃ source, input.source? other = some source ∧ input.Carried source

variable {input : Reconciliation} {fanIn : UInt16} {group : StripeGroup} {key source : BlockKey}
  {error : Error}

/-! ## Artifacts that agree -/

namespace Agrees

variable (agrees : input.Agrees fanIn)

include agrees

theorem nodes_eq : input.groups.map StripeGroup.nodes = input.placement := by
  apply List.ext_getElem?
  intro index
  rw [List.getElem?_map]
  cases inGroups : input.groups[index]? with
  | some group => exact (agrees.row index group inGroups).symm
  | none =>
      have outside := List.getElem?_eq_none_iff.mp inGroups
      rw [agrees.rows] at outside
      exact (List.getElem?_eq_none outside).symm

theorem known : ∀ stripe ∈ input.consumed, stripe < input.cluster.stripes := by
  intro stripe member
  have inRange := agrees.consumed.mem_iff.mp (List.mem_map_of_mem member)
  exact UInt32.lt_iff_toNat_lt.mpr (List.mem_range.mp inRange)

theorem distinct : input.consumed.Nodup :=
  (agrees.consumed.nodup_iff.mpr List.nodup_range).of_map _

end Agrees

/-- The check of the artifacts accepts exactly those that agree. -/
theorem agrees_iff_consistent (admits : input.cluster.Admits input.code fanIn) :
    input.Agrees fanIn ↔ input.Consistent fanIn := by
  constructor
  · intro agrees
    refine ⟨agrees.count, agrees.nodes_eq, agrees.contributing, ?_, agrees.known, agrees.distinct⟩
    intro group member
    rw [agrees.width group member, admits.widthAfter_eq]
  · intro consistent
    have checked : input.Checked fanIn := ⟨consistent, admits⟩
    refine ⟨?_, consistent.length_groups, consistent.length_contributing, ?_, ?_,
      checked.consumed_perm⟩
    · rw [← consistent.nodes_eq, List.length_map]
    · intro group member
      rw [consistent.length_nodes group member, admits.widthAfter_eq]
    · intro index group inGroups
      rw [checked.placement_getElem?, inGroups, Option.map_some]

theorem checked_iff :
    input.Checked fanIn ↔
      input.cluster.validate input.code = .ok fanIn ∧ input.Agrees fanIn := by
  rw [Cluster.validate_eq_ok]
  constructor
  · intro checked
    exact ⟨checked.admits, (agrees_iff_consistent checked.admits).mpr checked.toConsistent⟩
  · rintro ⟨admits, agrees⟩
    exact ⟨(agrees_iff_consistent admits).mp agrees, admits⟩

/-! ## Sources that can be carried over -/

theorem Uncarried.not_carried (uncarried : Uncarried input source error) :
    ¬input.Carried source := by
  rintro ⟨before, found, location⟩
  cases uncarried with
  | missing _ unrecorded =>
      rw [unrecorded] at found
      cases found
  | unnamed _ recorded stored unnamed =>
      obtain rfl := Option.some.inj (recorded.symm.trans found)
      rcases location with ⟨awaited, pending⟩ | ⟨path, name, isStored, named⟩
      · rw [stored] at pending
        cases pending
      · obtain rfl := Location.stored.inj (stored.symm.trans isStored)
        rw [unnamed] at named
        cases named

theorem Uncarried.unique {other : Error} (uncarried : Uncarried input source error)
    (also : Uncarried input source other) : error = other := by
  cases uncarried <;> cases also <;> simp_all

theorem Located.carried {entry : Entry} (located : Located input entry)
    (unmanaged : input.managed = false) (isData : entry.key.block < input.code.dataAfter)
    (found : input.source? entry.key = some source) : input.Carried source := by
  cases located with
  | entrusted _ _ managed _ =>
      rw [unmanaged] at managed
      cases managed
  | deferred _ carried _ recorded pending _ =>
      obtain rfl := Option.some.inj (carried.symm.trans found)
      exact ⟨_, recorded, .inl ⟨_, pending⟩⟩
  | moved _ carried _ recorded stored named _ =>
      obtain rfl := Option.some.inj (carried.symm.trans found)
      exact ⟨_, recorded, .inr ⟨_, _, stored, named⟩⟩
  | announced isParity _ _ => exact absurd isData (UInt16.not_lt.mpr isParity)
  | minted isParity _ _ => exact absurd isData (UInt16.not_lt.mpr isParity)

theorem carried_of_reconcileBlock (checked : input.Checked fanIn)
    (unmanaged : input.managed = false)
    (inGroups : input.groups[key.stripe.toNat]? = some group) {node : NodeId}
    {outcome : BlockOutcome} (success : reconcileBlock input group key node = .ok outcome)
    (isData : key.block < input.code.dataAfter) (found : input.source? key = some source) :
    input.Carried source := by
  obtain ⟨sameKey, -, located⟩ := located_of_reconcileBlock checked inGroups success
  rw [← sameKey] at isData found
  exact located.carried unmanaged isData found

theorem carried_of_reconcileStripe (checked : input.Checked fanIn)
    (unmanaged : input.managed = false)
    (inGroups : input.groups[key.stripe.toNat]? = some group) {outcome : StripeOutcome}
    (success : reconcileStripe input group key.stripe.toNat = .ok outcome)
    (isData : key.block < input.code.dataAfter) (found : input.source? key = some source) :
    input.Carried source := by
  have traversal := (blocks_of_reconcileStripe checked inGroups success).2
  have bound : key.block.toNat < group.nodes.length := by
    rw [checked.length_nodes group (List.mem_of_getElem? inGroups), checked.admits.widthAfter_eq]
    exact Nat.lt_add_right _ (UInt16.lt_iff_toNat_lt.mp isData)
  have place := List.mk_mem_zipIdx_iff_getElem?.mpr (List.getElem?_eq_getElem bound)
  obtain ⟨block, step⟩ := exists_of_mem_mapM traversal place
  simp only [BlockKey.ofIndices_toNat] at step
  exact carried_of_reconcileBlock checked unmanaged inGroups step isData found

/-- A stripe that fails does so at its first block whose source cannot be carried over. -/
theorem first_of_reconcileStripe (checked : input.Checked fanIn) {index : Nat}
    (inGroups : input.groups[index]? = some group)
    (fails : reconcileStripe input group index = .error error) :
    ∃ key : BlockKey, key.stripe.toNat = index ∧ key.block < input.code.dataAfter ∧
      (∃ source, input.source? key = some source ∧ Uncarried input source error) ∧
      ∀ block < key.block, ∀ source, input.source? ⟨key.stripe, block⟩ = some source →
        input.Carried source := by
  rw [reconcileStripe_eq checked inGroups, bind_eq_error] at fails
  rcases fails with fails | ⟨blocks, -, impossible⟩
  · obtain ⟨block, ⟨node, inNodes, fails⟩, succeed⟩ := mapM_zipIdx_eq_error.mp fails
    simp only [Nat.zero_add] at fails succeed
    have fits := checked.block_lt (List.mem_of_getElem? inGroups) inNodes
    have stripeValue := BlockKey.toNat_stripe_ofIndices (checked.stripe_lt inGroups) block
    have blockValue := BlockKey.toNat_block_ofIndices index fits
    obtain ⟨isData, source, found, uncarried⟩ :=
      uncarried_of_reconcileBlock checked (getElem?_ofIndices checked inGroups block) fails
    refine ⟨_, stripeValue, isData, ⟨source, found, uncarried⟩, ?_⟩
    intro earlier less other otherFound
    have unmanaged : input.managed = false := by cases uncarried <;> assumption
    rw [UInt16.lt_iff_toNat_lt, blockValue] at less
    obtain ⟨_, _, -, success⟩ := succeed earlier.toNat less
    have sameKey : BlockKey.ofIndices index earlier.toNat =
        ⟨(BlockKey.ofIndices index block).stripe, earlier⟩ := by
      simp [BlockKey.ofIndices]
    have otherIsData : earlier < input.code.dataAfter := by
      rw [UInt16.lt_iff_toNat_lt] at isData ⊢
      omega
    rw [← sameKey] at otherFound
    refine carried_of_reconcileBlock checked unmanaged
      (getElem?_ofIndices checked inGroups earlier.toNat) success ?_ otherFound
    rwa [sameKey]
  · cases impossible

/-! ## The first block that is not carried over -/

theorem FirstUncarried.unique {other : BlockKey} {cause : Error}
    (first : input.FirstUncarried key error) (also : input.FirstUncarried other cause) :
    error = cause := by
  obtain ⟨source, found, uncarried⟩ := first.uncarried
  obtain ⟨otherSource, otherFound, otherUncarried⟩ := also.uncarried
  have notLess : ¬other < key := by
    intro less
    obtain ⟨carriedSource, isSource, carried⟩ := first.earlier other also.isNew less
    obtain rfl := Option.some.inj (isSource.symm.trans otherFound)
    exact otherUncarried.not_carried carried
  have notGreater : ¬key < other := by
    intro less
    obtain ⟨carriedSource, isSource, carried⟩ := also.earlier key first.isNew less
    obtain rfl := Option.some.inj (isSource.symm.trans found)
    exact uncarried.not_carried carried
  have same : other = key := by
    by_contra different
    exact notGreater (BlockKey.lt_of_not_lt_of_ne notLess different)
  subst same
  obtain rfl := Option.some.inj (found.symm.trans otherFound)
  exact uncarried.unique otherUncarried

/-- The first stripe that fails does so at the first block of all that cannot be carried over. -/
theorem FailsFirst.firstUncarried (checked : input.Checked fanIn) {index : Nat}
    (first : input.FailsFirst index error) : ∃ key, input.FirstUncarried key error := by
  obtain ⟨group, inGroups, fails⟩ := first.fails
  obtain ⟨key, rfl, isData, uncarried, earlierBlocks⟩ :=
    first_of_reconcileStripe checked inGroups fails
  have unmanaged : input.managed = false := by
    obtain ⟨source, -, uncarried⟩ := uncarried
    cases uncarried <;> assumption
  have isNew : key ∈ input.newData :=
    checked.mem_newData.mpr ⟨(List.getElem?_eq_some_iff.mp inGroups).1, isData⟩
  refine ⟨key, isNew, uncarried, ?_⟩
  intro other otherNew less
  obtain ⟨source, found⟩ := checked.exists_source? otherNew
  refine ⟨source, found, ?_⟩
  -- The other block is in an earlier stripe, or earlier in the stripe that fails.
  rcases BlockKey.lt_def.mp less with earlierStripe | ⟨sameStripe, earlierBlock⟩
  · obtain ⟨otherGroup, outcome, otherInGroups, success⟩ :=
      first.earlier_succeed _ (UInt32.lt_iff_toNat_lt.mp earlierStripe)
    exact carried_of_reconcileStripe checked unmanaged otherInGroups success
      (checked.mem_newData.mp otherNew).2 found
  · apply earlierBlocks other.block earlierBlock
    rw [← sameStripe]
    exact found

end Reconciliation

open Reconciliation

variable {input : Reconciliation} {fanIn : UInt16} {error : Error}

theorem carried_of_reconcile {available : Nat} {result : Reconciled}
    (success : reconcile available input = .ok result) (unmanaged : input.managed = false)
    {source : BlockKey} (isOld : source ∈ input.oldData) : input.Carried source := by
  obtain ⟨entry, ⟨member, isData, found⟩, -⟩ := existsUnique_entry_of_reconcile success isOld
  exact (located_of_reconcile success member).2.carried unmanaged isData found

/-- What is checked is reconciled exactly where every old data block can be carried over. -/
theorem exists_reconcile_iff (checked : input.Checked fanIn) (available : Nat) :
    (∃ result, reconcile available input = .ok result) ↔
      (input.managed = false → ∀ source ∈ input.oldData, input.Carried source) := by
  constructor
  · rintro ⟨result, success⟩ unmanaged source isOld
    exact carried_of_reconcile success unmanaged isOld
  · intro carried
    refine exists_reconcile checked available fun unmanaged source isOld => ?_
    obtain ⟨before, recorded, location⟩ := carried unmanaged source isOld
    refine ⟨before, recorded, fun path stored => ?_⟩
    rcases location with ⟨awaited, pending⟩ | ⟨other, name, otherStored, named⟩
    · rw [stored] at pending
      cases pending
    · obtain rfl := Location.stored.inj (stored.symm.trans otherStored)
      exact ⟨name, named⟩

/-- What is checked fails only with the error of the first block that cannot be carried over. -/
theorem reconcile_eq_error_iff_first (checked : input.Checked fanIn) (available : Nat) :
    reconcile available input = .error error ↔ ∃ key, input.FirstUncarried key error := by
  have onlyFirst : ∀ cause, reconcile available input = .error cause →
      ∃ key, input.FirstUncarried key cause := by
    intro cause failed
    obtain ⟨index, first⟩ := (reconcile_eq_error_of_checked checked available cause).mp failed
    exact first.firstUncarried checked
  refine ⟨onlyFirst error, ?_⟩
  rintro ⟨key, first⟩
  cases outcome : reconcile available input with
  | error cause =>
      obtain ⟨other, also⟩ := onlyFirst cause outcome
      rw [also.unique first]
  | ok result =>
      obtain ⟨source, found, uncarried⟩ := first.uncarried
      have unmanaged : input.managed = false := by cases uncarried <;> assumption
      have isOld := checked.source?_mem_oldData found
      exact absurd (carried_of_reconcile outcome unmanaged isOld) uncarried.not_carried

theorem reconcile_eq_config (available : Nat)
    (invalid : ¬∃ fanIn, input.cluster.validate input.code = .ok fanIn) :
    ∃ cause, reconcile available input = .error (.config cause) := by
  cases validated : input.cluster.validate input.code with
  | ok fanIn => exact absurd ⟨fanIn, validated⟩ invalid
  | error error =>
      obtain ⟨cause, rfl⟩ := Cluster.config_of_validate validated
      exact ⟨cause, by simp [reconcile, validated]⟩

theorem reconcile_eq_mismatch (available : Nat)
    (validated : input.cluster.validate input.code = .ok fanIn) (disagrees : ¬input.Agrees fanIn) :
    ∃ cause, reconcile available input = .error (.artifactMismatch cause) := by
  have admits := Cluster.validate_eq_ok.mp validated
  cases agreed : input.checkArtifacts fanIn with
  | ok outcome =>
      have consistent := (checkArtifacts_eq_ok admits).mp agreed
      exact absurd ((agrees_iff_consistent admits).mpr consistent) disagrees
  | error error =>
      obtain ⟨cause, rfl⟩ := mismatch_of_checkArtifacts admits agreed
      exact ⟨cause, by simp [reconcile, validated, agreed]⟩

/-- A reconciliation succeeds exactly where the cluster admits the code, the artifacts agree, and
every old data block that no outside catalog knows can be carried over.  Otherwise it fails with an
error of the configuration, with a mismatch of the artifacts, or with the error of the first block
that cannot be carried over, whichever comes first in this order. -/
theorem reconcile_verdict (available : Nat) (input : Reconciliation) :
    ((∃ result, reconcile available input = .ok result) ↔
      ∃ fanIn, input.cluster.validate input.code = .ok fanIn ∧ input.Agrees fanIn ∧
        (input.managed = false → ∀ source ∈ input.oldData, input.Carried source)) ∧
    ((¬∃ fanIn, input.cluster.validate input.code = .ok fanIn) →
      ∃ cause, reconcile available input = .error (.config cause)) ∧
    ∀ fanIn, input.cluster.validate input.code = .ok fanIn →
      (¬input.Agrees fanIn →
        ∃ cause, reconcile available input = .error (.artifactMismatch cause)) ∧
      (input.Agrees fanIn → ∀ error,
        reconcile available input = .error error ↔ ∃ key, input.FirstUncarried key error) := by
  refine ⟨⟨?_, ?_⟩, reconcile_eq_config available, ?_⟩
  · rintro ⟨result, success⟩
    obtain ⟨fanIn, checked⟩ := checked_of_reconcile success
    obtain ⟨validated, agrees⟩ := checked_iff.mp checked
    exact ⟨fanIn, validated, agrees, (exists_reconcile_iff checked available).mp ⟨result, success⟩⟩
  · rintro ⟨fanIn, validated, agrees, carried⟩
    have checked := checked_iff.mpr ⟨validated, agrees⟩
    exact (exists_reconcile_iff checked available).mpr carried
  · intro fanIn validated
    refine ⟨reconcile_eq_mismatch available validated, fun agrees error => ?_⟩
    exact reconcile_eq_error_iff_first (checked_iff.mpr ⟨validated, agrees⟩) available

/-- The stripes of `swapped`, with nothing recorded of their blocks. -/
def forgotten : Reconciliation := { swapped with before := .empty }

/-- Of two old blocks that are not recorded the second is reported, as it comes first in the new
stripe. -/
theorem reconcile_verdict_forgotten :
    (¬∃ result, reconcile 1 forgotten = .ok result) ∧
      ∃ key, forgotten.FirstUncarried key (.missingProvenance ⟨1, 0⟩) := by
  obtain ⟨succeeds_iff, -, fails_iff⟩ := reconcile_verdict 1 forgotten
  constructor
  · intro succeeds
    obtain ⟨fanIn, -, -, carried⟩ := succeeds_iff.mp succeeds
    obtain ⟨before, recorded, -⟩ := carried rfl ⟨0, 0⟩ ⟨by decide, by decide⟩
    cases recorded
  · have validated : forgotten.cluster.validate forgotten.code = .ok 2 := by decide
    have agreed : forgotten.checkArtifacts 2 = .ok () := by decide
    obtain ⟨-, agrees⟩ := checked_iff.mp (checks_eq_ok.mp ⟨validated, agreed⟩)
    exact ((fails_iff 2 validated).2 agrees _).mp (by decide)

end Restripe
