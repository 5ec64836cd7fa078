import Mathlib.Algebra.Order.Ring.Nat
import Mathlib.Data.List.Basic
import Restripe.Machine
import Restripe.Proofs.Outcome

/-!
# Operations within the bounds of a machine

An operation gives its result as long as its numbers fit in a word, its divisor is not zero and its
index is inside.
-/

namespace Restripe

open Outcome

section Word

variable {α : Type} {value first length dividend divisor index : Nat} {item : α} {items : Array α}

theorem word_eq (fits : value < UInt64.size) : word value = .ok value :=
  if_pos fits

theorem word_eq_ok {result : Nat} :
    word value = .ok result ↔ value < UInt64.size ∧ value = result := by
  unfold word
  split
  · rename_i fits
    simp [fits]
  · rename_i tooLarge
    simp [tooLarge]

theorem wordsFrom_eq (fits : first + length < UInt64.size) :
    wordsFrom first length = .ok (List.range' first length) := by
  rw [wordsFrom, word_eq fits, ok_bind, Nat.add_sub_cancel_left]
  rfl

theorem wordsFrom_eq_ok {numbers : List Nat} (success : wordsFrom first length = .ok numbers) :
    numbers = List.range' first length := by
  obtain ⟨last, fits, same⟩ := bind_eq_ok.mp success
  rw [← (word_eq_ok.mp fits).2, Nat.add_sub_cancel_left] at same
  exact (Except.ok.inj same).symm

theorem divide_eq [Div α] [Mod α] [OfNat α 0] [DecidableEq α] {dividend divisor : α}
    (nonzero : divisor ≠ 0) :
    divide dividend divisor = .ok (dividend / divisor, dividend % divisor) :=
  if_neg nonzero

theorem exists_divideUp (positive : 0 < divisor) (something : 0 < dividend) :
    ∃ less, divideUp dividend divisor = .ok (less + 1) := by
  rw [divideUp, divide_eq (Nat.ne_of_gt positive), ok_bind]
  by_cases whole : dividend % divisor = 0
  · have divides := Nat.div_pos (Nat.le_of_dvd something (Nat.dvd_of_mod_eq_zero whole)) positive
    obtain ⟨less, equation⟩ := Nat.exists_eq_add_one.mpr divides
    exact ⟨less, by simp [whole, equation]⟩
  · exact ⟨dividend / divisor, by simp [whole]⟩

theorem itemAt_eq (found : items[index]? = some item) : itemAt items index = .ok item := by
  rw [itemAt, found]
  rfl

theorem putAt_eq (inside : index < items.size) :
    putAt items index item = .ok (items.setIfInBounds index item) :=
  if_pos inside

/-- Numbers that come out one after the other are added up, as long as their sum fits in a word. -/
theorem foldlM_word {step : α → Except Error Nat} {weight : α → Nat} {items : List α} {start : Nat}
    (steps : ∀ item ∈ items, step item = .ok (weight item))
    (fits : start + (items.map weight).sum < UInt64.size) :
    items.foldlM (fun total item => do word (total + (← step item))) start =
      .ok (start + (items.map weight).sum) := by
  induction items generalizing start with
  | nil => rfl
  | cons item items ih =>
      rw [List.map_cons, List.sum_cons, ← Nat.add_assoc] at fits ⊢
      rw [List.foldlM_cons, steps item List.mem_cons_self, ok_bind,
        word_eq (Nat.lt_of_le_of_lt (Nat.le_add_right _ _) fits), ok_bind]
      exact ih (fun other member => steps other (List.mem_cons_of_mem item member)) fits

end Word

/-!
## Runs and the items in them

The runs of a list take its items in order, so an item of a run is found in the list at the place
that the number of the run and its place there say.  A list of whole runs is cut into these runs.
-/

variable {α : Type} {length : Nat} {items : List α}

/-- The runs of a numbered list hold its items under their numbers. -/
theorem zipIdx_runsOfSucc (length : Nat) (items : List α) (start : Nat) :
    ((runsOfSucc length items).zipIdx start).flatMap (fun (run, index) =>
      run.zipIdx (index * (length + 1))) = items.zipIdx (start * (length + 1)) := by
  fun_induction runsOfSucc length items generalizing start with
  | case1 => rfl
  | case2 head tail ih =>
      have whole : head :: tail = (head :: tail.take length) ++ tail.drop length := by simp
      rw [List.zipIdx_cons, List.flatMap_cons, ih (start + 1), whole, List.zipIdx_append]
      congr 1
      -- Only the last run may be short, and no items come after it.
      rcases Nat.le_total length tail.length with full | short
      · rw [List.length_cons, List.length_take_of_le full, Nat.succ_mul]
      · rw [List.drop_of_length_le short]
        rfl

theorem length_pos_of_mem_runs {run : List α} (member : run ∈ runsOfSucc length items) :
    0 < run.length := by
  fun_induction runsOfSucc length items with
  | case1 => simp at member
  | case2 head tail ih =>
      rcases List.mem_cons.mp member with first | later
      · rw [first]
        exact Nat.succ_pos _
      · exact ih later

/-- A run holds the items from its first number on. -/
theorem getElem?_of_mem_runs {number index : Nat} {run : List α} {item : α}
    (member : (run, number) ∈ (runsOfSucc length items).zipIdx)
    (inRun : run[index]? = some item) : items[number * (length + 1) + index]? = some item := by
  have numbered : (item, number * (length + 1) + index) ∈
      run.zipIdx (number * (length + 1)) := List.mk_add_mem_zipIdx_iff_getElem?.mpr inRun
  have inAll := List.mem_flatMap_of_mem (f := fun place : List α × Nat =>
    place.1.zipIdx (place.2 * (length + 1))) member numbered
  rw [zipIdx_runsOfSucc, Nat.zero_mul] at inAll
  exact List.mk_mem_zipIdx_iff_getElem?.mp inAll

/-- A list of whole runs is cut into these runs. -/
theorem length_runsOfSucc {count : Nat} (whole : items.length = count * (length + 1)) :
    (runsOfSucc length items).length = count ∧
      ∀ run ∈ runsOfSucc length items, run.length = length + 1 := by
  fun_induction runsOfSucc length items generalizing count with
  | case1 =>
      have nothing : count = 0 :=
        (Nat.mul_eq_zero.mp whole.symm).resolve_right (Nat.succ_ne_zero length)
      simp [nothing]
  | case2 head tail ih =>
      cases count with
      | zero => simp at whole
      | succ count =>
          rw [List.length_cons, Nat.succ_mul] at whole
          have enough : length ≤ tail.length := by omega
          have whole : (tail.drop length).length = count * (length + 1) := by
            rw [List.length_drop]
            omega
          obtain ⟨others, lengths⟩ := ih whole
          refine ⟨congrArg (· + 1) others, List.forall_mem_cons.mpr ⟨?_, lengths⟩⟩
          rw [List.length_cons, List.length_take_of_le enough]

/-- A list of whole runs has its items in the runs at their places. -/
theorem exists_chunks {length : Nat} (positive : 0 < length) (whole : length ∣ items.length) :
    ∃ runs, chunks length items = .ok runs ∧ runs.length = items.length / length ∧
      ∀ index run, runs[index]? = some run →
        ∀ position < length, run[position]? = items[index * length + position]? := by
  obtain ⟨less, rfl⟩ := Nat.exists_eq_add_one.mpr positive
  obtain ⟨count, equation⟩ := whole
  obtain ⟨runCount, runLengths⟩ := length_runsOfSucc (equation.trans (Nat.mul_comm _ _))
  refine ⟨runsOfSucc less items, rfl, ?_, fun index run inRuns position inside => ?_⟩
  · rw [runCount, equation, Nat.mul_div_cancel_left count positive]
  · have runLength := runLengths run (List.mem_of_getElem? inRuns)
    have inRun := List.getElem?_eq_getElem (runLength.symm ▸ inside)
    rw [inRun, getElem?_of_mem_runs (List.mk_mem_zipIdx_iff_getElem?.mpr inRuns) inRun]

end Restripe
