import Mathlib.Data.List.Forall2

/-!
# Computations that can fail

A computation in `Except` either gives a value or stops with an error.  The lemmas here say which of
the two a sequence or a traversal does: it succeeds where every step does, and otherwise it stops
with the error of the first step that fails.
-/

namespace Restripe.Outcome

variable {ε α β γ : Type}

@[simp] theorem pure_eq (value : α) : (pure value : Except ε α) = .ok value := rfl

@[simp] theorem throw_eq (error : ε) : (throw error : Except ε α) = .error error := rfl

@[simp] theorem ok_bind (value : α) (next : α → Except ε β) :
    (Except.ok value >>= next) = next value := rfl

@[simp] theorem error_bind (error : ε) (next : α → Except ε β) :
    (Except.error error >>= next) = .error error := rfl

theorem bind_eq_ok {first : Except ε α} {next : α → Except ε β} {result : β} :
    first >>= next = .ok result ↔ ∃ value, first = .ok value ∧ next value = .ok result := by
  cases first <;> simp

theorem bind_eq_error {first : Except ε α} {next : α → Except ε β} {error : ε} :
    first >>= next = .error error ↔
      first = .error error ∨ ∃ value, first = .ok value ∧ next value = .error error := by
  cases first <;> simp

theorem exists_eq_ok (outcome : Except ε α) (success : outcome.isOk = true) :
    ∃ value, outcome = .ok value := by
  cases outcome with
  | ok value => exact ⟨value, rfl⟩
  | error error => contradiction

/-! ## Traversals -/

theorem mapM_eq_ok {step : α → Except ε β} {items : List α} {results : List β} :
    items.mapM step = .ok results ↔
      List.Forall₂ (fun item result => step item = .ok result) items results := by
  induction items generalizing results with
  | nil => cases results <;> simp
  | cons item items ih =>
      simp only [List.mapM_cons, bind_eq_ok, pure_eq, List.forall₂_cons_left_iff, ih]
      constructor
      · rintro ⟨result, first, rest, others, same⟩
        exact ⟨result, rest, first, others, (Except.ok.inj same).symm⟩
      · rintro ⟨result, rest, first, others, rfl⟩
        exact ⟨result, first, rest, others, rfl⟩

theorem mapM_congr {left right : α → Except ε β} {items : List α}
    (same : ∀ item ∈ items, left item = right item) : items.mapM left = items.mapM right := by
  induction items with
  | nil => rfl
  | cons item items ih =>
      have tail := ih fun item member => same item (by simp [member])
      rw [List.mapM_cons, List.mapM_cons, same item (by simp), tail]

theorem mem_of_mapM {step : α → Except ε β} {items : List α} {results : List β}
    (success : items.mapM step = .ok results) (result : β) :
    result ∈ results ↔ ∃ item ∈ items, step item = .ok result := by
  have stepwise := mapM_eq_ok.mp success
  clear success
  induction stepwise with
  | nil => simp
  | @cons item value items results first _ ih =>
      simp only [List.mem_cons, ih, exists_eq_or_imp, first, Except.ok.injEq]
      rw [eq_comm]

theorem exists_of_forall₂ {relates : α → β → Prop} {items : List α} {partners : List β}
    (related : List.Forall₂ relates items partners) {item : α} (member : item ∈ items) :
    ∃ partner ∈ partners, relates item partner := by
  induction related with
  | nil => simp at member
  | cons head _ ih =>
      rcases List.mem_cons.mp member with rfl | inTail
      · exact ⟨_, List.mem_cons_self, head⟩
      · obtain ⟨partner, inPartners, others⟩ := ih inTail
        exact ⟨partner, List.mem_cons_of_mem _ inPartners, others⟩

theorem exists_of_mem_mapM {step : α → Except ε β} {items : List α} {results : List β}
    (success : items.mapM step = .ok results) {item : α} (member : item ∈ items) :
    ∃ result, step item = .ok result := by
  obtain ⟨result, -, first⟩ := exists_of_forall₂ (mapM_eq_ok.mp success) member
  exact ⟨result, first⟩

theorem exists_mapM {step : α → Except ε β} {items : List α}
    (each : ∀ item ∈ items, ∃ result, step item = .ok result) :
    ∃ results, items.mapM step = .ok results := by
  induction items with
  | nil => exact ⟨[], rfl⟩
  | cons item items ih =>
      obtain ⟨result, first⟩ := each item List.mem_cons_self
      obtain ⟨results, rest⟩ := ih fun other member => each other (List.mem_cons_of_mem item member)
      exact ⟨result :: results, by simp [first, rest]⟩

theorem exists_of_mapM_error {step : α → Except ε β} {items : List α} {error : ε}
    (failed : items.mapM step = .error error) : ∃ item ∈ items, step item = .error error := by
  induction items with
  | nil => cases failed
  | cons item items ih =>
      rw [List.mapM_cons] at failed
      rcases bind_eq_error.mp failed with first | ⟨_, _, failed⟩
      · exact ⟨item, List.mem_cons_self, first⟩
      · rcases bind_eq_error.mp failed with rest | ⟨_, _, impossible⟩
        · obtain ⟨other, member, step⟩ := ih rest
          exact ⟨other, List.mem_cons_of_mem item member, step⟩
        · cases impossible

/-- What every step keeps, the whole traversal keeps. -/
theorem map_of_mapM {step : α → Except ε β} {before : α → γ} {after : β → γ} {items : List α}
    {results : List β} (success : items.mapM step = .ok results)
    (kept : ∀ item ∈ items, ∀ result, step item = .ok result → after result = before item) :
    results.map after = items.map before := by
  have stepwise := mapM_eq_ok.mp success
  clear success
  induction stepwise with
  | nil => rfl
  | @cons item value items results first _ ih =>
      have head := kept item (by simp) value first
      have tail := ih fun item member => kept item (by simp [member])
      simp [head, tail]

theorem length_of_mapM {step : α → Except ε β} {items : List α} {results : List β}
    (success : items.mapM step = .ok results) : results.length = items.length :=
  (mapM_eq_ok.mp success).length_eq.symm

theorem getElem?_of_mapM {step : α → Except ε β} {items : List α} {results : List β}
    (success : items.mapM step = .ok results) {index : Nat} {result : β}
    (found : results[index]? = some result) :
    ∃ item, items[index]? = some item ∧ step item = .ok result := by
  obtain ⟨bound, rfl⟩ := List.getElem?_eq_some_iff.mp found
  have stepwise := mapM_eq_ok.mp success
  have sameLength := stepwise.length_eq
  exact ⟨items[index], List.getElem?_eq_getElem _, stepwise.get (sameLength ▸ bound) bound⟩

/-- A traversal of items that are numbered from `start` on stops at the first item that fails. -/
theorem mapM_zipIdx_eq_error {step : α × Nat → Except ε β} {items : List α} {start : Nat}
    {error : ε} :
    (items.zipIdx start).mapM step = .error error ↔
      ∃ index, (∃ item, items[index]? = some item ∧ step (item, start + index) = .error error) ∧
        ∀ earlier < index, ∃ item result, items[earlier]? = some item ∧
          step (item, start + earlier) = .ok result := by
  induction items generalizing start with
  | nil => simp
  | cons head tail ih =>
      simp only [List.zipIdx_cons, List.mapM_cons, bind_eq_error, pure_eq, reduceCtorEq,
        and_false, exists_false, or_false, ih]
      constructor
      · rintro (fails | ⟨result, success, index, ⟨item, found, fails⟩, succeed⟩)
        · exact ⟨0, ⟨head, rfl, fails⟩, by simp⟩
        · refine ⟨index + 1, ⟨item, found, by rwa [Nat.add_right_comm] at fails⟩, ?_⟩
          intro earlier less
          cases earlier with
          | zero => exact ⟨head, result, rfl, success⟩
          | succ earlier =>
              obtain ⟨item, result, found, success⟩ := succeed earlier (by omega)
              exact ⟨item, result, found, by rwa [Nat.add_right_comm] at success⟩
      · rintro ⟨index, ⟨item, found, fails⟩, succeed⟩
        cases index with
        | zero =>
            obtain rfl : head = item := by simpa using found
            exact .inl fails
        | succ index =>
            obtain ⟨first, result, isHead, success⟩ := succeed 0 (by omega)
            obtain rfl : head = first := by simpa using isHead
            refine .inr ⟨result, success, index, ⟨item, found, ?_⟩, ?_⟩
            · rwa [Nat.add_right_comm]
            · intro earlier less
              obtain ⟨item, result, found, success⟩ := succeed (earlier + 1) (by omega)
              exact ⟨item, result, found, by rwa [Nat.add_right_comm]⟩

end Restripe.Outcome
