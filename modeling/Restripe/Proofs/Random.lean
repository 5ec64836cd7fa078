import Mathlib.Data.List.Nodup
import Restripe.Proofs.Outcome
import Restripe.Random

/-!
# What is in a random sample

A sample holds as many indices as it was asked for, all different and below the length, whichever
way it is drawn.  Nothing can go wrong but that the words of the stream are refused too often.
-/

namespace Restripe.Random

open Outcome

/-- Every value that is drawn is good, and a draw fails only when it is given up. -/
def Draw.Yields {α : Type} (draw : Draw α) (good : α → Prop) : Prop :=
  ∀ limit generator, match (draw.run limit).run generator with
    | .ok (value, _) => good value
    | .error error => error = .fault .tooManyDraws

section Yields

variable {α β : Type} {draw : Draw α} {next : α → Draw β} {good : α → Prop} {final : β → Prop}

theorem Draw.Yields.mono {better : α → Prop} (yields : draw.Yields better)
    (implied : ∀ value, better value → good value) : draw.Yields good := by
  intro limit generator
  have outcome := yields limit generator
  split at outcome
  · exact implied _ outcome
  · exact outcome

theorem yields_pure {value : α} (isGood : good value) : (pure value : Draw α).Yields good :=
  fun _ _ => isGood

theorem yields_giveUp : (throw (.fault .tooManyDraws) : Draw α).Yields good :=
  fun _ _ => rfl

theorem yields_bind (first : draw.Yields good)
    (rest : ∀ value, good value → (next value).Yields final) : (draw >>= next).Yields final := by
  intro limit generator
  have outcome := first limit generator
  rw [ReaderT.run_bind, StateT.run_bind]
  cases drawn : (draw.run limit).run generator with
  | error error =>
      rw [drawn] at outcome
      exact outcome
  | ok result =>
      rw [drawn] at outcome
      exact rest result.1 outcome limit result.2

theorem yields_word : word.Yields fun _ => True :=
  fun _ _ => trivial

theorem yields_limit : (read : Draw Nat).Yields fun _ => True :=
  fun _ _ => trivial

end Yields

/-! ## Numbers -/

theorem yields_scaled {span : Nat} (positive : 0 < span) (zone tries : Nat) :
    (scaled span zone tries).Yields (· < span) := by
  induction tries with
  | zero => exact yields_giveUp
  | succ tries ih =>
      refine yields_bind yields_word fun value _ => ?_
      dsimp only
      split
      · refine yields_pure ((Nat.div_lt_iff_lt_mul (by decide)).mpr ?_)
        rw [Nat.mul_comm span]
        exact Nat.mul_lt_mul_of_pos_right value.toNat_lt positive
      · exact ih

theorem yields_between {low high : Nat} (ordered : low ≤ high) :
    (between low high).Yields fun value => low ≤ value ∧ value ≤ high := by
  refine yields_bind yields_limit fun limit _ => ?_
  refine yields_bind (yields_scaled (Nat.succ_pos _) _ _) fun value bound => ?_
  exact yields_pure ⟨Nat.le_add_right low value, by omega⟩

theorem yields_below {length : Nat} (positive : 0 < length) :
    (below length).Yields (· < length) :=
  yields_bind yields_limit fun _ _ => yields_scaled positive _ _

/-! ## Shuffling -/

theorem swapIfInBounds_perm (indices : Array Nat) (first second : Nat) :
    (indices.swapIfInBounds first second).toList.Perm indices.toList := by
  rw [Array.swapIfInBounds_def]
  split
  · split
    · exact (Array.swap_perm _ _).toList
    · exact .refl _
  · exact .refl _

theorem yields_shuffleFront (indices : Array Nat) {start count : Nat}
    (within : start + count ≤ indices.size) :
    (shuffleFront indices start count).Yields fun shuffled =>
      shuffled.toList.Perm indices.toList := by
  induction count generalizing indices start with
  | zero => exact yields_pure (.refl _)
  | succ count ih =>
      refine yields_bind (yields_between (by omega)) fun chosen _ => ?_
      have within : start + 1 + count ≤ (indices.swapIfInBounds start chosen).size := by
        rw [Array.size_swapIfInBounds]
        omega
      exact (ih _ within).mono fun shuffled perm =>
        perm.trans (swapIfInBounds_perm indices start chosen)

theorem yields_shuffleBack (indices : Array Nat) (last : Nat) :
    (shuffleBack indices last).Yields fun shuffled => shuffled.toList.Perm indices.toList := by
  induction last generalizing indices with
  | zero => exact yields_pure (.refl _)
  | succ last ih =>
      refine yields_bind (yields_between (Nat.zero_le _)) fun chosen _ => ?_
      exact (ih _).mono fun shuffled perm =>
        perm.trans (swapIfInBounds_perm indices (last + 1) chosen)

/-! ## Samples -/

/-- A sample of `amount` indices below `length`. -/
structure IsSample (length amount : Nat) (indices : List Nat) : Prop where
  length_eq : indices.length = amount
  distinct : indices.Nodup
  bounded : ∀ index ∈ indices, index < length

variable {length amount bound : Nat} {taken indices : List Nat}

theorem IsSample.perm (isSample : IsSample length amount taken) (perm : indices.Perm taken) :
    IsSample length amount indices where
  length_eq := perm.length_eq.trans isSample.length_eq
  distinct := perm.nodup_iff.mpr isSample.distinct
  bounded index member := isSample.bounded index (perm.mem_iff.mp member)

theorem IsSample.nil (length : Nat) : IsSample length 0 [] :=
  ⟨rfl, .nil, by simp⟩

/-- A new index makes a larger sample, wherever it is put. -/
theorem IsSample.insert {larger index : Nat} (isSample : IsSample length amount taken)
    (fresh : index ∉ taken) (within : index < larger) (grows : length ≤ larger)
    (perm : indices.Perm (index :: taken)) : IsSample larger (amount + 1) indices := by
  have added : IsSample larger (amount + 1) (index :: taken) := by
    refine ⟨congrArg (· + 1) isSample.length_eq, isSample.distinct.cons fresh, ?_⟩
    intro other member
    rcases List.mem_cons.mp member with same | inTaken
    · exact same ▸ within
    · exact Nat.lt_of_lt_of_le (isSample.bounded other inTaken) grows
  exact added.perm perm

theorem yields_inPlace (fits : amount ≤ length) :
    (inPlace length amount).Yields (IsSample length amount) := by
  have within : 0 + amount ≤ (Array.range length).size := by simpa using fits
  refine yields_bind (yields_shuffleFront _ within) fun shuffled perm => yields_pure ?_
  rw [Array.toList_range] at perm
  have all : IsSample length length shuffled.toList :=
    IsSample.perm ⟨List.length_range, List.nodup_range, fun _ => List.mem_range.mp⟩ perm
  refine ⟨?_, all.distinct.sublist (List.take_sublist _ _), ?_⟩
  · rw [List.length_take, all.length_eq, Nat.min_eq_left fits]
  · intro index member
    exact all.bounded index (List.mem_of_mem_take member)

theorem insertBefore_perm (mark value : Nat) (items : List Nat) :
    (insertBefore mark value items).Perm (value :: items) := by
  induction items with
  | nil => exact .refl _
  | cons head tail ih =>
      rw [insertBefore]
      split
      · exact .refl _
      · exact (ih.cons head).trans (.swap value head tail)

/-- A bound is taken only where the index below it is taken already, so it is always new. -/
theorem yields_collectBelow (ordered : Bool) (isSample : IsSample bound amount taken)
    (count : Nat) :
    (collectBelow ordered taken bound count).Yields
      (IsSample (bound + count) (amount + count)) := by
  induction count generalizing bound amount taken with
  | zero => exact yields_pure isSample
  | succ count ih =>
      refine yields_bind (yields_between (Nat.zero_le _)) fun chosen chosenBound => ?_
      have boundFresh : bound ∉ taken := fun member =>
        Nat.lt_irrefl bound (isSample.bounded bound member)
      rw [Nat.add_comm count 1, ← Nat.add_assoc, ← Nat.add_assoc]
      refine ih ?_
      split
      · split
        · exact isSample.insert boundFresh (Nat.lt_succ_self _) (Nat.le_succ _)
            (insertBefore_perm chosen bound taken)
        · exact isSample.insert boundFresh (Nat.lt_succ_self _) (Nat.le_succ _)
            (List.perm_append_singleton bound taken)
      · rename_i fresh
        rw [List.contains_iff_mem] at fresh
        exact isSample.insert fresh (Nat.lt_succ_of_le chosenBound.2) (Nat.le_succ _)
          (List.perm_append_singleton chosen taken)

theorem yields_byBounds (fits : amount ≤ length) :
    (byBounds length amount).Yields (IsSample length amount) := by
  have collected (ordered : Bool) : (collectBelow ordered [] (length - amount) amount).Yields
      (IsSample length amount) := by
    have grown := yields_collectBelow ordered (IsSample.nil (length - amount)) amount
    rwa [Nat.sub_add_cancel fits, Nat.zero_add] at grown
  unfold byBounds
  split
  · exact collected true
  · refine yields_bind (collected false) fun drawn isSample => ?_
    refine yields_bind (yields_shuffleBack drawn.toArray (amount - 1)) fun shuffled perm => ?_
    exact yields_pure (isSample.perm perm)

theorem yields_untaken (positive : 0 < length) (taken : List Nat) (tries : Nat) :
    (untaken length taken tries).Yields fun index => index < length ∧ index ∉ taken := by
  induction tries with
  | zero => exact yields_giveUp
  | succ tries ih =>
      refine yields_bind (yields_below positive) fun chosen within => ?_
      split
      · exact ih
      · rename_i fresh
        rw [List.contains_iff_mem] at fresh
        exact yields_pure ⟨within, fresh⟩

theorem yields_byRejection (positive : 0 < length) (isSample : IsSample length amount taken)
    (count : Nat) :
    (byRejection length taken count).Yields (IsSample length (amount + count)) := by
  induction count generalizing amount taken with
  | zero => exact yields_pure isSample
  | succ count ih =>
      refine yields_bind yields_limit fun limit _ => ?_
      refine yields_bind (yields_untaken positive taken limit) fun chosen isNew => ?_
      rw [Nat.add_comm count 1, ← Nat.add_assoc]
      exact ih (isSample.insert isNew.2 isNew.1 (Nat.le_refl _)
        (List.perm_append_singleton chosen taken))

theorem yields_sample (fits : amount ≤ length) :
    (sample length amount).Yields (IsSample length amount) := by
  unfold sample
  split
  · split
    · exact yields_inPlace fits
    · exact yields_byBounds fits
  · rename_i large
    split
    · exact yields_inPlace fits
    · have drawn := yields_byRejection (show 0 < length by omega) (IsSample.nil length) amount
      rwa [Nat.zero_add] at drawn

/-!
## The limit of a draw

How often a draw may be tried decides only whether it is given up.  A value that is drawn under some
limit is drawn under every larger one from the same words, so what the loops of a sample give does
not depend on the limit.
-/

section Agrees

variable {α β : Type} {limit larger : Nat} {first second : Draw α} {next following : α → Draw β}

/-- What one computation gives under a limit another gives under a limit of its own, and leaves the
stream at the same position. -/
def Agrees (limit larger : Nat) (first second : Draw α) : Prop :=
  ∀ generator result, (first.run limit).run generator = .ok result →
    (second.run larger).run generator = .ok result

/-- What is drawn under a limit is drawn under every larger one. -/
def Draw.Settles (draw : Draw α) : Prop :=
  ∀ limit larger, limit ≤ larger → Agrees limit larger draw draw

theorem agrees_pure (value : α) : Agrees limit larger (pure value : Draw α) (pure value) :=
  fun _ _ given => given

theorem agrees_giveUp : Agrees limit larger (throw (.fault .tooManyDraws) : Draw α) second := by
  intro generator result given
  cases given

theorem agrees_bind (start : Agrees limit larger first second)
    (rest : ∀ value, Agrees limit larger (next value) (following value)) :
    Agrees limit larger (first >>= next) (second >>= following) := by
  intro generator result given
  rw [ReaderT.run_bind, StateT.run_bind] at given ⊢
  obtain ⟨⟨value, left⟩, drawn, given⟩ := bind_eq_ok.mp given
  exact bind_eq_ok.mpr ⟨(value, left), start generator _ drawn, rest value left result given⟩

theorem agrees_word : Agrees limit larger word word :=
  fun _ _ given => given

/-- Each computation is told its own limit. -/
theorem agrees_limit {next following : Nat → Draw β}
    (rest : Agrees limit larger (next limit) (following larger)) :
    Agrees limit larger (read >>= next) (read >>= following) :=
  rest

theorem settles_pure (value : α) : (pure value : Draw α).Settles :=
  fun _ _ _ => agrees_pure value

theorem settles_bind (start : first.Settles) (rest : ∀ value, (next value).Settles) :
    (first >>= next).Settles :=
  fun limit larger le => agrees_bind (start limit larger le) fun value => rest value limit larger le

end Agrees

/-! ### Numbers -/

theorem agrees_scaled (span zone : Nat) {tries more limit larger : Nat} (le : tries ≤ more) :
    Agrees limit larger (scaled span zone tries) (scaled span zone more) := by
  induction tries generalizing more with
  | zero => exact agrees_giveUp
  | succ tries ih =>
      obtain ⟨more, rfl⟩ := Nat.exists_eq_succ_of_ne_zero (Nat.ne_zero_of_lt le)
      refine agrees_bind agrees_word fun value => ?_
      dsimp only
      split
      · exact agrees_pure _
      · exact ih (Nat.le_of_succ_le_succ le)

theorem settles_between (low high : Nat) : (between low high).Settles :=
  fun _ _ le => agrees_limit (agrees_bind (agrees_scaled _ _ le) fun _ => agrees_pure _)

theorem settles_below (length : Nat) : (below length).Settles :=
  fun _ _ le => agrees_limit (agrees_scaled _ _ le)

/-! ### Samples -/

theorem settles_shuffleFront (indices : Array Nat) (start count : Nat) :
    (shuffleFront indices start count).Settles := by
  induction count generalizing indices start with
  | zero => exact settles_pure indices
  | succ count ih => exact settles_bind (settles_between _ _) fun _ => ih _ _

theorem settles_shuffleBack (indices : Array Nat) (last : Nat) :
    (shuffleBack indices last).Settles := by
  induction last generalizing indices with
  | zero => exact settles_pure indices
  | succ last ih => exact settles_bind (settles_between _ _) fun _ => ih _

theorem settles_inPlace (length amount : Nat) : (inPlace length amount).Settles :=
  settles_bind (settles_shuffleFront _ _ _) fun _ => settles_pure _

theorem settles_collectBelow (ordered : Bool) (taken : List Nat) (bound count : Nat) :
    (collectBelow ordered taken bound count).Settles := by
  induction count generalizing taken bound with
  | zero => exact settles_pure taken
  | succ count ih => exact settles_bind (settles_between _ _) fun _ => ih _ _

theorem settles_byBounds (length amount : Nat) : (byBounds length amount).Settles := by
  unfold byBounds
  split
  · exact settles_collectBelow _ _ _ _
  · refine settles_bind (settles_collectBelow _ _ _ _) fun _ => ?_
    exact settles_bind (settles_shuffleBack _ _) fun _ => settles_pure _

theorem agrees_untaken (length : Nat) (taken : List Nat) {tries more limit larger : Nat}
    (triesLe : tries ≤ more) (limitLe : limit ≤ larger) :
    Agrees limit larger (untaken length taken tries) (untaken length taken more) := by
  induction tries generalizing more with
  | zero => exact agrees_giveUp
  | succ tries ih =>
      obtain ⟨more, rfl⟩ := Nat.exists_eq_succ_of_ne_zero (Nat.ne_zero_of_lt triesLe)
      refine agrees_bind (settles_below length limit larger limitLe) fun chosen => ?_
      split
      · exact ih (Nat.le_of_succ_le_succ triesLe)
      · exact agrees_pure chosen

theorem settles_byRejection (length : Nat) (taken : List Nat) (count : Nat) :
    (byRejection length taken count).Settles := by
  induction count generalizing taken with
  | zero => exact settles_pure taken
  | succ count ih =>
      intro limit larger le
      refine agrees_limit (agrees_bind (agrees_untaken length taken le le) fun chosen => ?_)
      exact ih (taken ++ [chosen]) limit larger le

/-- A sample does not depend on the limit under which it is drawn. -/
theorem settles_sample (length amount : Nat) : (sample length amount).Settles := by
  unfold sample
  split
  · split
    · exact settles_inPlace length amount
    · exact settles_byBounds length amount
  · split
    · exact settles_inPlace length amount
    · exact settles_byRejection length [] amount

end Restripe.Random
