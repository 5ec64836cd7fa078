import Mathlib.Data.List.Nodup
import Mathlib.Data.List.Perm.Subperm
import Restripe.Proofs.Metadata.Placement
import Restripe.Proofs.Validation
import Restripe.Reconcile

/-!
# What the check of the artifacts promises

The check accepts exactly the artifacts that agree with each other and consume no stripe twice.  As
there are then as many contributions as old stripes, every old stripe is consumed.
-/

namespace Restripe.Reconciliation

open Outcome

/-- The stripes that the groups consume, in their order. -/
def consumed (input : Reconciliation) : List StripeId :=
  input.groups.flatMap StripeGroup.contributing

/-- The groups agree with the placement, and together they consume stripes that exist, none of them
twice. -/
structure Consistent (input : Reconciliation) (fanIn : UInt16) : Prop where
  length_groups : input.groups.length = input.cluster.stripes.toNat / fanIn.toNat
  nodes_eq : input.groups.map StripeGroup.nodes = input.placement
  length_contributing : ∀ group ∈ input.groups, group.contributing.length = fanIn.toNat
  length_nodes : ∀ group ∈ input.groups, group.nodes.length = input.code.widthAfter.toNat
  known : ∀ stripe ∈ input.consumed, stripe < input.cluster.stripes
  distinct : input.consumed.Nodup

/-- Input that passes all checks before any stripe is reconciled. -/
structure Checked (input : Reconciliation) (fanIn : UInt16) : Prop
    extends input.Consistent fanIn where
  admits : input.cluster.Admits input.code fanIn

/-! ## The check -/

section Check

variable {stripes : UInt32} {fanIn width index : Nat} {taken result : List StripeId}

theorem consume_eq_ok {contributing : List StripeId} :
    consume stripes index taken contributing = .ok result ↔
      (∀ stripe ∈ contributing, stripe < stripes) ∧ contributing.Nodup ∧
        (∀ stripe ∈ contributing, stripe ∉ taken) ∧ contributing.reverse ++ taken = result := by
  induction contributing generalizing taken with
  | nil => simp [consume]
  | cons stripe contributing ih =>
      simp only [consume, List.contains_eq_mem, decide_eq_true_eq]
      split
      · rename_i unknown
        simp [UInt32.not_lt.mpr unknown]
      · rename_i known
        rw [UInt32.not_le] at known
        split
        · rename_i repeated
          simp [repeated]
        · rename_i fresh
          simp only [ih, List.mem_cons, not_or, List.nodup_cons, List.reverse_cons,
            List.append_assoc, List.singleton_append, forall_eq_or_imp, known, fresh,
            not_false_eq_true, true_and]
          constructor
          · rintro ⟨exist, nodup, apart, same⟩
            exact ⟨exist, ⟨fun member => (apart stripe member).1 rfl, nodup⟩,
              fun other member => (apart other member).2, same⟩
          · rintro ⟨exist, ⟨notIn, nodup⟩, apart, same⟩
            refine ⟨exist, nodup, fun other member => ⟨?_, apart other member⟩, same⟩
            rintro rfl
            exact notIn member

theorem checkGroup_eq_ok {group : StripeGroup} {row : List NodeId} {outcome : Unit} :
    checkGroup fanIn width index group row = .ok outcome ↔
      group.contributing.length = fanIn ∧ group.nodes.length = width ∧ group.nodes = row := by
  unfold checkGroup
  split
  · rename_i misshapen
    simp only [throw_eq, reduceCtorEq, false_iff]
    rintro ⟨contributing, nodes, -⟩
    exact misshapen.elim (· contributing) (· nodes)
  · rename_i shaped
    rw [not_or, Decidable.not_not, Decidable.not_not] at shaped
    split <;> simp_all

/-- Groups are consumed like one group that has the contributing stripes of all. -/
theorem checkGroups_eq_ok {pairs : List (StripeGroup × List NodeId)} :
    checkGroups stripes fanIn width index taken pairs = .ok result ↔
      (∀ pair ∈ pairs, pair.1.contributing.length = fanIn ∧ pair.1.nodes.length = width ∧
        pair.1.nodes = pair.2) ∧
      consume stripes 0 taken (pairs.flatMap (·.1.contributing)) = .ok result := by
  induction pairs generalizing index taken with
  | nil => simp [checkGroups, consume]
  | cons pair pairs ih =>
      obtain ⟨group, row⟩ := pair
      simp only [checkGroups, bind_eq_ok, checkGroup_eq_ok, ih, consume_eq_ok, List.flatMap_cons,
        List.forall_mem_cons, List.forall_mem_append, List.nodup_append', List.reverse_append,
        List.append_assoc]
      constructor
      · rintro ⟨-, shape, next, ⟨known, nodup, apart, rfl⟩, shapes, knownRest, nodupRest,
          apartRest, same⟩
        refine ⟨⟨shape, shapes⟩, ⟨known, knownRest⟩, ⟨nodup, nodupRest, ?_⟩, ⟨apart, ?_⟩, same⟩
        · intro stripe first rest
          exact apartRest stripe rest (by simp [first])
        · intro stripe rest inTaken
          exact apartRest stripe rest (by simp [inTaken])
      · rintro ⟨⟨shape, shapes⟩, ⟨known, knownRest⟩, ⟨nodup, nodupRest, disjoint⟩,
          ⟨apart, apartRest⟩, same⟩
        refine ⟨(), shape, _, ⟨known, nodup, apart, rfl⟩, shapes, knownRest, nodupRest, ?_, same⟩
        intro stripe rest inNext
        rcases List.mem_append.mp inNext with first | inTaken
        · exact disjoint (List.mem_reverse.mp first) rest
        · exact apartRest stripe rest inTaken

theorem forall_mem_zip {groups : List StripeGroup} {placement : Placement}
    (lengths : groups.length = placement.length) (shaped : StripeGroup → Prop) :
    (∀ pair ∈ groups.zip placement, shaped pair.1 ∧ pair.1.nodes = pair.2) ↔
      (∀ group ∈ groups, shaped group) ∧ groups.map StripeGroup.nodes = placement := by
  induction groups generalizing placement with
  | nil =>
      obtain rfl := List.length_eq_zero_iff.mp lengths.symm
      simp
  | cons group groups ih =>
      cases placement with
      | nil => simp at lengths
      | cons row placement =>
          simp only [List.length_cons, Nat.add_right_cancel_iff] at lengths
          simp only [List.zip_cons_cons, List.forall_mem_cons, ih lengths, List.map_cons,
            List.cons.injEq]
          exact and_and_and_comm

theorem exists_checkGroups {groups : List StripeGroup} {placement : Placement}
    (lengths : groups.length = placement.length) :
    (∃ result, checkGroups stripes fanIn width 0 [] (groups.zip placement) = .ok result) ↔
      (∀ group ∈ groups, group.contributing.length = fanIn ∧ group.nodes.length = width) ∧
        groups.map StripeGroup.nodes = placement ∧
        (∀ stripe ∈ groups.flatMap StripeGroup.contributing, stripe < stripes) ∧
        (groups.flatMap StripeGroup.contributing).Nodup := by
  have contributions : (groups.zip placement).flatMap (·.1.contributing) =
      groups.flatMap StripeGroup.contributing := by
    have firsts := List.map_fst_zip (Nat.le_of_eq lengths)
    conv => rhs; rw [← firsts]
    rw [List.flatMap_map]
  have shapes := forall_mem_zip lengths fun group =>
    group.contributing.length = fanIn ∧ group.nodes.length = width
  simp only [checkGroups_eq_ok, consume_eq_ok, contributions, ← and_assoc, ← shapes,
    exists_and_left, exists_eq', and_true, List.not_mem_nil, not_false_eq_true, implies_true]

end Check

variable {input : Reconciliation} {fanIn : UInt16}

/-- The check accepts exactly the consistent artifacts. -/
theorem checkArtifacts_eq_ok (admits : input.cluster.Admits input.code fanIn) {outcome : Unit} :
    input.checkArtifacts fanIn = .ok outcome ↔ input.Consistent fanIn := by
  obtain ⟨stripes, counted, value⟩ := admits.stripesAfter_eq
  unfold checkArtifacts
  simp only [counted, ok_bind, value, throw_eq, error_bind]
  constructor
  · intro success
    split at success
    · simp at success
    · rename_i sameLength
      split at success
      · simp at success
      · rename_i counts
        rw [Decidable.not_not] at sameLength counts
        obtain ⟨result, checked, -⟩ := bind_eq_ok.mp success
        obtain ⟨shapes, nodes, known, distinct⟩ :=
          (exists_checkGroups sameLength).mp ⟨result, checked⟩
        exact ⟨counts, nodes, fun group member => (shapes group member).1,
          fun group member => (shapes group member).2, known, distinct⟩
  · intro consistent
    have sameLength : input.groups.length = input.placement.length := by
      rw [← consistent.nodes_eq, List.length_map]
    obtain ⟨result, checked⟩ := (exists_checkGroups sameLength).mpr
      ⟨fun group member =>
        ⟨consistent.length_contributing group member, consistent.length_nodes group member⟩,
        consistent.nodes_eq, consistent.known, consistent.distinct⟩
    rw [if_neg (not_not_intro sameLength), if_neg (not_not_intro consistent.length_groups), checked]
    rfl

/-- Validation and the check of the artifacts accept exactly the input that is `Checked`. -/
theorem checks_eq_ok :
    input.cluster.validate input.code = .ok fanIn ∧ input.checkArtifacts fanIn = .ok () ↔
      input.Checked fanIn := by
  rw [Cluster.validate_eq_ok]
  constructor
  · rintro ⟨admits, success⟩
    exact ⟨(checkArtifacts_eq_ok admits).mp success, admits⟩
  · rintro ⟨consistent, admits⟩
    exact ⟨admits, (checkArtifacts_eq_ok admits).mpr consistent⟩

namespace Checked

variable (checked : input.Checked fanIn)

include checked

theorem placement_getElem? (index : Nat) :
    input.placement[index]? = input.groups[index]?.map StripeGroup.nodes := by
  rw [← checked.nodes_eq, List.getElem?_map]

theorem length_placement :
    input.placement.length = input.cluster.stripes.toNat / fanIn.toNat := by
  rw [← checked.nodes_eq, List.length_map, checked.length_groups]

theorem length_row {nodes : List NodeId} (member : nodes ∈ input.placement) :
    nodes.length = input.code.widthAfter.toNat := by
  rw [← checked.nodes_eq] at member
  obtain ⟨group, inGroups, rfl⟩ := List.mem_map.mp member
  exact checked.length_nodes group inGroups

theorem length_groups_lt : input.groups.length < UInt32.size := by
  rw [checked.length_groups]
  exact Nat.lt_of_le_of_lt (Nat.div_le_self _ _) input.cluster.stripes.toNat_lt

theorem stripe_lt {index : Nat} {group : StripeGroup}
    (inGroups : input.groups[index]? = some group) :
    index < UInt32.size :=
  Nat.lt_trans (List.getElem?_eq_some_iff.mp inGroups).1 checked.length_groups_lt

theorem block_lt {group : StripeGroup} (member : group ∈ input.groups) {block : Nat}
    {node : NodeId} (inNodes : group.nodes[block]? = some node) : block < UInt16.size := by
  have bound := (List.getElem?_eq_some_iff.mp inNodes).1
  rw [checked.length_nodes group member] at bound
  exact Nat.lt_trans bound input.code.widthAfter.toNat_lt

theorem addressable : input.placement.Addressable where
  stripes := by
    rw [← checked.nodes_eq, List.length_map]
    exact Nat.le_of_lt checked.length_groups_lt
  blocks nodes member := by
    rw [checked.length_row member]
    exact Nat.le_of_lt input.code.widthAfter.toNat_lt

theorem exists_holder {key : BlockKey} :
    (∃ node, input.placement.holder? key = some node) ↔
      key.stripe.toNat < input.cluster.stripes.toNat / fanIn.toNat ∧
        key.block.toNat < input.code.dataAfter.toNat + input.code.parityAfter.toNat := by
  rw [← checked.length_placement, ← checked.admits.widthAfter_eq]
  exact Placement.exists_holder? fun nodes member => checked.length_row member

theorem length_consumed : input.consumed.length = input.cluster.stripes.toNat := by
  have lengths : input.groups.map (fun group => group.contributing.length) =
      input.groups.map fun _ => fanIn.toNat :=
    List.map_congr_left checked.length_contributing
  rw [consumed, List.length_flatMap, lengths, List.map_const', List.sum_replicate_nat,
    checked.length_groups, Nat.div_mul_cancel checked.admits.divides]

/-- Every old stripe is consumed: there are as many contributions as old stripes, and none of them
twice. -/
theorem consumed_perm :
    (input.consumed.map UInt32.toNat).Perm (List.range input.cluster.stripes.toNat) := by
  have nodup : (input.consumed.map UInt32.toNat).Nodup :=
    checked.distinct.map fun _ _ same => UInt32.toNat_inj.mp same
  have bounded : input.consumed.map UInt32.toNat ⊆ List.range input.cluster.stripes.toNat := by
    intro number member
    obtain ⟨stripe, inConsumed, rfl⟩ := List.mem_map.mp member
    exact List.mem_range.mpr (UInt32.lt_iff_toNat_lt.mp (checked.known stripe inConsumed))
  have lengths : (List.range input.cluster.stripes.toNat).length =
      (input.consumed.map UInt32.toNat).length := by
    rw [List.length_range, List.length_map, checked.length_consumed]
  exact (List.subperm_of_subset nodup bounded).perm_of_length_le (Nat.le_of_eq lengths)

end Checked

end Restripe.Reconciliation
