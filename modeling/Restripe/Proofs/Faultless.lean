import Restripe.Proofs.Plan
import Restripe.Proofs.Reconcile.Failure

/-!
# Nothing stops on a fault

Planning and reconciling divide, index and count without a check at hand, because the checks that
come first leave nothing to go wrong: the fan-in is not zero, the stripes of a group are there, and
a cluster that is wide enough has a node for every block.  So both fail only for their input.
-/

namespace Restripe

open Outcome

namespace Plan

section Group

variable {code : Code} {nodes fanIn : UInt16} {rows : Placement} {index : Nat} {error : Error}
  (whole : code.Whole fanIn)

include whole

theorem foreseen_of_sourceNode {block : BlockIndex}
    (failed : sourceNode code nodes rows block = .error error) : error.IsForeseen := by
  rw [sourceNode, source_eq whole, ok_bind] at failed
  dsimp only at failed
  split at failed
  · rw [← Except.error.inj failed]
    trivial
  · split at failed
    · cases failed
    · rw [← Except.error.inj failed]
      trivial

/-- Assigning a row never runs out of nodes, and never leaves the marks or the slots. -/
theorem foreseen_of_assign (wide : code.dataAfter.toNat + code.parityAfter.toNat ≤ nodes.toNat)
    (failed : assign code nodes rows = .error error) : error.IsForeseen := by
  rw [assign_eq] at failed
  rcases bind_eq_error.mp failed with inSources | ⟨sources, found, inFill⟩
  · obtain ⟨block, -, failed⟩ := exists_of_mapM_error inSources
    exact foreseen_of_sourceNode whole failed
  · obtain ⟨row, filled⟩ := exists_fill_slots whole wide found
    rw [filled] at inFill
    cases inFill

theorem foreseen_of_group (wide : code.dataAfter.toNat + code.parityAfter.toNat ≤ nodes.toNat)
    (numbered : (index + 1) * fanIn.toNat ≤ UInt32.size) {approach : Approach}
    (failed : Plan.group code nodes approach fanIn.toNat rows index = .error error) :
    error.IsForeseen := by
  obtain ⟨contributing, planned⟩ := exists_group_eq numbered approach
  rw [planned] at failed
  rcases bind_eq_error.mp failed with inRow | ⟨_, _, impossible⟩
  · exact foreseen_of_assign whole wide inRow
  · cases impossible

end Group

/-- As long as the stripes can be numbered, planning fails only for the code, the cluster or the
placement before. -/
theorem foreseen_of_planTransition {code : Code} {nodes : UInt16} {approach : Approach}
    {before : Placement} {error : Error} (numbered : before.length ≤ UInt32.size)
    (failed : planTransition code nodes approach before = .error error) : error.IsForeseen := by
  rcases bind_eq_error.mp failed with inFanIn | ⟨fanIn, quotient, failed⟩
  · obtain ⟨cause, rfl⟩ := Code.config_of_fanIn inFanIn
    trivial
  · have whole := Code.fanIn_eq_ok.mp quotient
    simp only [throw_eq, error_bind, divide_eq (Nat.ne_of_gt whole.fanIn_pos), ok_bind] at failed
    split at failed
    · rw [← Except.error.inj failed]
      trivial
    · split at failed
      · rw [← Except.error.inj failed]
        trivial
      · rename_i wide even
        rw [UInt16.lt_iff_toNat_lt, whole.widthAfter_eq, Nat.not_lt] at wide
        have divides := Nat.dvd_of_mod_eq_zero (Decidable.not_not.mp even)
        obtain ⟨runs, cut, count, -⟩ := exists_chunks whole.fanIn_pos divides
        rw [cut, ok_bind] at failed
        obtain ⟨⟨rows, index⟩, member, failed⟩ := exists_of_mapM_error failed
        have bound := (List.getElem?_eq_some_iff.mp (List.mk_mem_zipIdx_iff_getElem?.mp member)).1
        rw [count] at bound
        refine foreseen_of_group whole wide ?_ failed
        calc (index + 1) * fanIn.toNat
            ≤ before.length / fanIn.toNat * fanIn.toNat := Nat.mul_le_mul_right _ bound
          _ ≤ before.length := Nat.div_mul_le_self _ _
          _ ≤ UInt32.size := numbered

theorem exists_countRetained {code : Code} {nodes : UInt16} {approach : Approach}
    {before : Placement} {groups : List StripeGroup}
    (planned : planTransition code nodes approach before = .ok groups) :
    ∃ retained, countRetained code before (StripeGroup.placement groups) = .ok retained := by
  obtain ⟨fanIn, plannable, count, -⟩ := of_planTransition planned
  refine ⟨_, countRetained_eq_sum (Code.fanIn_eq_ok.mp plannable.fanIn_eq)
    (length_le_of_planTransition planned) ?_⟩
  rw [StripeGroup.placement, List.length_map, count]
  exact Nat.div_mul_le_self _ _

end Plan

/-- Whatever they are given, a reconciliation never stops with a fault or with what should never
happen, and no more does the planning of stripes that can be numbered, or counting what the plan
keeps in place. -/
theorem core_faultless :
    (∀ available input error, reconcile available input = .error error → error.IsForeseen) ∧
    ∀ code nodes approach, ∀ before : Placement, before.length ≤ UInt32.size →
      (∀ error, planTransition code nodes approach before = .error error → error.IsForeseen) ∧
      ∀ groups, planTransition code nodes approach before = .ok groups →
        ∃ retained, Plan.countRetained code before (StripeGroup.placement groups) =
          .ok retained := by
  constructor
  · intro available input error failed
    exact foreseen_of_reconcile failed
  · intro code nodes approach before numbered
    constructor
    · intro error failed
      exact Plan.foreseen_of_planTransition numbered failed
    · intro groups planned
      exact Plan.exists_countRetained planned

/-- A code of zeros is refused before anything is divided by it, and a plan that displaces a block is
counted. -/
theorem core_faultless_displaced :
    (∃ error, reconcile 4 { swapped with code := ⟨0, 0, 0, 0⟩, workers := 0 } = .error error ∧
      error.IsForeseen) ∧
    ([[0, 1, 2], [1, 3, 4]] : Placement).length ≤ UInt32.size ∧
    ∃ groups retained,
      planTransition ⟨2, 1, 4, 1⟩ 6 .balanced [[0, 1, 2], [1, 3, 4]] = .ok groups ∧
      Plan.countRetained ⟨2, 1, 4, 1⟩ [[0, 1, 2], [1, 3, 4]] (StripeGroup.placement groups) =
        .ok retained := by
  have refused : reconcile 4 { swapped with code := ⟨0, 0, 0, 0⟩, workers := 0 } =
      .error (.config (.zeroParameter ⟨0, 0, 0, 0⟩)) := rfl
  have planned : planTransition ⟨2, 1, 4, 1⟩ 6 .balanced [[0, 1, 2], [1, 3, 4]] =
      .ok [⟨[0, 1], .parityMerge, [0, 1, 2, 3, 4]⟩] := by decide +kernel
  have numbered : ([[0, 1, 2], [1, 3, 4]] : Placement).length ≤ UInt32.size := by decide
  obtain ⟨retained, counted⟩ := (core_faultless.2 _ _ _ _ numbered).2 _ planned
  exact ⟨⟨_, refused, core_faultless.1 _ _ _ refused⟩, numbered, _, retained, planned, counted⟩

end Restripe
