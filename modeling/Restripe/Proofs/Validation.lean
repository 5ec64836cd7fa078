import Restripe.Proofs.Machine
import Restripe.Validation

/-!
# What validation promises

A code has a fan-in where its parameters are non-zero, new stripes are made of whole old ones and no
stripe is wider than can be counted.  A cluster admits the code where both kinds of stripes fit on
its nodes and its stripes form whole groups.
-/

namespace Restripe

open Outcome

/-- A code takes whole old stripes to new ones, `fanIn` of them to one. -/
structure Code.Whole (code : Code) (fanIn : UInt16) : Prop where
  dataBefore_pos : 0 < code.dataBefore.toNat
  parityBefore_pos : 0 < code.parityBefore.toNat
  dataAfter_pos : 0 < code.dataAfter.toNat
  parityAfter_pos : 0 < code.parityAfter.toNat
  dataAfter_eq : code.dataAfter.toNat = fanIn.toNat * code.dataBefore.toNat
  widthBefore_lt : code.dataBefore.toNat + code.parityBefore.toNat < UInt16.size
  widthAfter_lt : code.dataAfter.toNat + code.parityAfter.toNat < UInt16.size

/-- A cluster holds the stripes of a code before and after a transition of whole groups. -/
structure Cluster.Admits (cluster : Cluster) (code : Code) (fanIn : UInt16) : Prop
    extends code.Whole fanIn where
  stripes_pos : 0 < cluster.stripes.toNat
  widthBefore_le : code.dataBefore.toNat + code.parityBefore.toNat ≤ cluster.nodes.toNat
  widthAfter_le : code.dataAfter.toNat + code.parityAfter.toNat ≤ cluster.nodes.toNat
  divides : fanIn.toNat ∣ cluster.stripes.toNat

theorem stripeAt_eq_ok {index : Nat} {stripe : StripeId} :
    stripeAt index = .ok stripe ↔ stripe.toNat = index := by
  unfold stripeAt
  split
  · rename_i fits
    rw [pure_eq, Except.ok.injEq, ← UInt32.toNat_inj, UInt32.toNat_ofNat_of_lt' fits, eq_comm]
  · rename_i tooLarge
    simp only [throw_eq, reduceCtorEq, false_iff]
    rintro rfl
    exact tooLarge stripe.toNat_lt

theorem blockAt_eq_ok {index : Nat} {block : BlockIndex} :
    blockAt index = .ok block ↔ block.toNat = index := by
  unfold blockAt
  split
  · rename_i fits
    rw [pure_eq, Except.ok.injEq, ← UInt16.toNat_inj, UInt16.toNat_ofNat_of_lt' fits, eq_comm]
  · rename_i tooLarge
    simp only [throw_eq, reduceCtorEq, false_iff]
    rintro rfl
    exact tooLarge block.toNat_lt

theorem toNat_max (left right : UInt16) : (max left right).toNat = max left.toNat right.toNat := by
  change (if left ≤ right then right else left).toNat = _
  split
  · rename_i le
    rw [UInt16.le_iff_toNat_le] at le
    omega
  · rename_i notLe
    rw [UInt16.le_iff_toNat_le] at notLe
    omega

namespace Code

variable {code : Code} {fanIn : UInt16}

theorem fanIn_eq_ok : code.fanIn = .ok fanIn ↔ code.Whole fanIn := by
  unfold Code.fanIn
  constructor
  · intro success
    simp only [throw_eq, error_bind] at success
    split at success
    · cases success
    · rename_i nonzero
      rw [not_or] at nonzero
      rw [divide_eq nonzero.1, ok_bind] at success
      simp only at success
      split at success
      · cases success
      · split at success
        · cases success
        · rename_i divisible bounded
          obtain rfl := Except.ok.inj success
          simp only [not_or, ← UInt16.toNat_inj, UInt16.toNat_zero, Nat.not_le, Decidable.not_not,
            UInt16.toNat_mod] at nonzero divisible bounded
          have dataAfter_eq := Nat.div_mul_cancel (Nat.dvd_of_mod_eq_zero divisible)
          rw [← UInt16.toNat_div] at dataAfter_eq
          exact ⟨by omega, by omega, by omega, by omega, dataAfter_eq.symm, bounded.1, bounded.2⟩
  · intro whole
    have nonzero : ¬(code.dataBefore = 0 ∨ code.parityBefore = 0 ∨ code.dataAfter = 0 ∨
        code.parityAfter = 0) := by
      have := whole.dataBefore_pos
      have := whole.parityBefore_pos
      have := whole.dataAfter_pos
      have := whole.parityAfter_pos
      simp only [← UInt16.toNat_inj, UInt16.toNat_zero]
      omega
    have divisible : code.dataAfter % code.dataBefore = 0 := by
      rw [← UInt16.toNat_inj, UInt16.toNat_mod, whole.dataAfter_eq]
      simp
    have bounded : ¬(UInt16.size ≤ code.dataBefore.toNat + code.parityBefore.toNat ∨
        UInt16.size ≤ code.dataAfter.toNat + code.parityAfter.toNat) := by
      have := whole.widthBefore_lt
      have := whole.widthAfter_lt
      omega
    have quotient : code.dataAfter / code.dataBefore = fanIn := by
      rw [← UInt16.toNat_inj, UInt16.toNat_div, whole.dataAfter_eq,
        Nat.mul_div_cancel _ whole.dataBefore_pos]
    have divided : divide code.dataAfter code.dataBefore = .ok (fanIn, 0) := by
      rw [divide_eq (not_or.mp nonzero).1, quotient, divisible]
    simp [nonzero, divided, bounded]

namespace Whole

theorem fanIn_pos (whole : code.Whole fanIn) : 0 < fanIn.toNat := by
  have positive := whole.dataAfter_pos
  rw [whole.dataAfter_eq] at positive
  exact Nat.pos_of_mul_pos_right positive

theorem toUInt32_ne_zero (whole : code.Whole fanIn) : fanIn.toUInt32 ≠ 0 := by
  have positive := whole.fanIn_pos
  simp only [ne_eq, ← UInt32.toNat_inj, UInt16.toNat_toUInt32, UInt32.toNat_zero]
  omega

theorem fanIn_eq (whole : code.Whole fanIn) :
    fanIn.toNat = code.dataAfter.toNat / code.dataBefore.toNat := by
  rw [whole.dataAfter_eq, Nat.mul_div_cancel _ whole.dataBefore_pos]

theorem widthAfter_eq (whole : code.Whole fanIn) :
    code.widthAfter.toNat = code.dataAfter.toNat + code.parityAfter.toNat := by
  have bound := whole.widthAfter_lt
  rw [Code.widthAfter, stripeWidth, Nat.min_eq_left (by omega), UInt16.toNat_ofNat_of_lt' bound]

theorem widthBefore_eq (whole : code.Whole fanIn) :
    code.widthBefore.toNat = code.dataBefore.toNat + code.parityBefore.toNat := by
  have bound := whole.widthBefore_lt
  rw [Code.widthBefore, stripeWidth, Nat.min_eq_left (by omega), UInt16.toNat_ofNat_of_lt' bound]

end Whole

end Code

namespace Cluster

variable {cluster : Cluster} {code : Code} {fanIn : UInt16}

theorem stripes_mod_eq_zero (divides : fanIn.toNat ∣ cluster.stripes.toNat) :
    cluster.stripes % fanIn.toUInt32 = 0 := by
  rw [← UInt32.toNat_inj, UInt32.toNat_mod, UInt16.toNat_toUInt32]
  exact Nat.mod_eq_zero_of_dvd divides

theorem exists_stripesAfter (cluster : Cluster) (positive : 0 < fanIn.toNat) :
    ∃ stripes, cluster.stripesAfter fanIn = .ok stripes ∧
      stripes.toNat = cluster.stripes.toNat / fanIn.toNat := by
  have nonzero : fanIn ≠ 0 := by
    rintro rfl
    exact Nat.lt_irrefl 0 positive
  refine ⟨cluster.stripes / fanIn.toUInt32, ?_, ?_⟩
  · simp [Cluster.stripesAfter, Cluster.stripesAfter?, nonzero]
  · rw [UInt32.toNat_div, UInt16.toNat_toUInt32]

/-- Validation accepts exactly the codes that a cluster admits. -/
theorem validate_eq_ok : cluster.validate code = .ok fanIn ↔ cluster.Admits code fanIn := by
  unfold Cluster.validate
  rw [bind_eq_ok]
  constructor
  · rintro ⟨value, quotient, success⟩
    have whole := Code.fanIn_eq_ok.mp quotient
    simp only [throw_eq, error_bind] at success
    split at success
    · cases success
    · split at success
      · cases success
      · rw [divide_eq whole.toUInt32_ne_zero, ok_bind] at success
        simp only at success
        split at success
        · cases success
        · rename_i nonempty wide even
          obtain rfl := Except.ok.inj success
          simp only [not_or, ← UInt16.toNat_inj, ← UInt32.toNat_inj, UInt16.toNat_zero,
            UInt32.toNat_zero, Decidable.not_not, UInt32.toNat_mod, UInt16.toNat_toUInt32,
            UInt16.lt_iff_toNat_lt, Nat.not_lt, toNat_max, whole.widthBefore_eq,
            whole.widthAfter_eq] at nonempty wide even
          exact ⟨whole, by omega, by omega, by omega, Nat.dvd_of_mod_eq_zero even⟩
  · intro admits
    refine ⟨fanIn, Code.fanIn_eq_ok.mpr admits.toWhole, ?_⟩
    have nonempty : ¬(cluster.nodes = 0 ∨ cluster.stripes = 0) := by
      have := admits.stripes_pos
      have := admits.dataBefore_pos
      have := admits.widthBefore_le
      simp only [← UInt16.toNat_inj, ← UInt32.toNat_inj, UInt16.toNat_zero, UInt32.toNat_zero]
      omega
    have wide : ¬cluster.nodes < max code.widthBefore code.widthAfter := by
      have := admits.widthBefore_le
      have := admits.widthAfter_le
      rw [UInt16.lt_iff_toNat_lt, toNat_max, admits.widthBefore_eq, admits.widthAfter_eq]
      omega
    have even := stripes_mod_eq_zero admits.divides
    have divided : divide cluster.stripes fanIn.toUInt32 =
        .ok (cluster.stripes / fanIn.toUInt32, 0) := by
      rw [divide_eq admits.toUInt32_ne_zero, even]
    simp [nonempty, wide, divided]

namespace Admits

theorem stripesAfter_eq (admits : cluster.Admits code fanIn) :
    ∃ stripes, cluster.stripesAfter fanIn = .ok stripes ∧
      stripes.toNat = cluster.stripes.toNat / fanIn.toNat :=
  exists_stripesAfter cluster admits.fanIn_pos

end Admits

end Cluster

end Restripe
