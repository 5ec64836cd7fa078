import Restripe.FileSystem.Disk
import Restripe.Proofs.Outcome

/-!
# What a computation over a file system does

A computation gives its outcome and leaves a file system.  The lemmas here say what each way of
building a computation gives and leaves, so that the outcome of a program is read off its steps.  A
computation stays within a relation between file systems when every run of it is related to its
start; as long as the relation is a preorder, it is enough that every step stays within it.
-/

namespace Restripe.Disk

variable {α β : Type}

/-! ## Outcomes -/

@[simp] theorem perform_pure (value : α) (fs : FileSystem) :
    (pure value : Disk α).perform fs = (.ok value, fs) := rfl

@[simp] theorem perform_throw (error : Error) (fs : FileSystem) :
    (throw error : Disk α).perform fs = (.error error, fs) := rfl

@[simp] theorem perform_liftM (outcome : Except Error α) (fs : FileSystem) :
    (liftM outcome : Disk α).perform fs = (outcome, fs) := rfl

@[simp] theorem perform_get (fs : FileSystem) :
    (get : Disk FileSystem).perform fs = (.ok fs, fs) := rfl

theorem perform_bind (action : Disk α) (next : α → Disk β) (fs : FileSystem) :
    (action >>= next).perform fs = match action.perform fs with
      | (.ok value, after) => (next value).perform after
      | (.error error, after) => (.error error, after) := by
  change (match action.perform fs with
    | (outcome, after) => (ExceptT.bindCont next outcome : StateM FileSystem _) after) = _
  rcases action.perform fs with ⟨error | value, after⟩ <;> rfl

theorem perform_tryCatch (action : Disk α) (handler : Error → Disk α) (fs : FileSystem) :
    (tryCatch action handler).perform fs = match action.perform fs with
      | (.ok value, after) => (.ok value, after)
      | (.error error, after) => (handler error).perform after := by
  have run : (tryCatch action handler).perform fs =
      (StateT.run (ExceptT.run (ExceptT.tryCatch action handler)) fs).run := rfl
  rw [run]
  simp only [ExceptT.tryCatch, ExceptT.run_mk, StateT.run_bind]
  rcases outcome : action.perform fs with ⟨error | value, after⟩
  all_goals
    have ran : StateT.run action fs = _ := outcome
    rw [ran]
    rfl

theorem perform_ask (query : FileSystem → Except IoFault α) (fs : FileSystem) :
    (ask query).perform fs = ((query fs).mapError .io, fs) := by
  unfold ask
  rw [perform_bind, perform_get]
  simp only
  cases query fs <;> rfl

theorem perform_change (update : FileSystem → Except IoFault FileSystem) (fs : FileSystem) :
    (change update).perform fs = match update fs with
      | .ok after => (.ok (), after)
      | .error fault => (.error (.io fault), fs) := by
  unfold change
  rw [perform_bind, perform_get]
  simp only
  cases update fs <;> rfl

/-! ## Sequences -/

variable {action : Disk α} {next : α → Disk β} {fs middle after : FileSystem} {value : α}
  {result : β} {error : Error}

theorem bind_eq_ok : (action >>= next).perform fs = (.ok result, after) ↔
    ∃ value middle, action.perform fs = (.ok value, middle) ∧
      (next value).perform middle = (.ok result, after) := by
  rw [perform_bind]
  rcases action.perform fs with ⟨error | value, middle⟩
  · simp
  · simp only [Prod.mk.injEq, Except.ok.injEq]
    constructor
    · intro success
      exact ⟨value, middle, ⟨rfl, rfl⟩, success⟩
    · intro success
      obtain ⟨_, _, ⟨rfl, rfl⟩, rest⟩ := success
      exact rest

theorem bind_eq_error : (action >>= next).perform fs = (.error error, after) ↔
    action.perform fs = (.error error, after) ∨
      ∃ value middle, action.perform fs = (.ok value, middle) ∧
        (next value).perform middle = (.error error, after) := by
  rw [perform_bind]
  rcases action.perform fs with ⟨first | value, middle⟩
  · simp
  · simp only [Prod.mk.injEq, reduceCtorEq, false_and, false_or, Except.ok.injEq]
    constructor
    · intro failure
      exact ⟨value, middle, ⟨rfl, rfl⟩, failure⟩
    · intro failure
      obtain ⟨_, _, ⟨rfl, rfl⟩, rest⟩ := failure
      exact rest

theorem perform_bind_ok (success : action.perform fs = (.ok value, middle)) :
    (action >>= next).perform fs = (next value).perform middle := by
  rw [perform_bind, success]

theorem perform_bind_error (failure : action.perform fs = (.error error, middle)) :
    (action >>= next).perform fs = (.error error, middle) := by
  rw [perform_bind, failure]

/-- What comes after a computation may be exchanged for what does the same. -/
theorem perform_bind_congr {other : α → Disk β}
    (same : ∀ value middle, (next value).perform middle = (other value).perform middle) :
    (action >>= next).perform fs = (action >>= other).perform fs := by
  rw [perform_bind, perform_bind]
  rcases action.perform fs with ⟨error | value, middle⟩
  · rfl
  · exact same value middle

theorem perform_liftM_ok {outcome : Except Error α} (success : outcome = .ok value)
    (fs : FileSystem) : (liftM outcome : Disk α).perform fs = (.ok value, fs) := by
  rw [perform_liftM, success]

theorem change_eq_ok {update : FileSystem → Except IoFault FileSystem} :
    (change update).perform fs = (.ok (), after) ↔ update fs = .ok after := by
  rw [perform_change]
  cases update fs <;> simp

theorem tryCatch_eq_ok {handler : Error → Disk α} :
    (tryCatch action handler).perform fs = (.ok value, after) ↔
      action.perform fs = (.ok value, after) ∨
        ∃ error middle, action.perform fs = (.error error, middle) ∧
          (handler error).perform middle = (.ok value, after) := by
  rw [perform_tryCatch]
  rcases action.perform fs with ⟨error | result, middle⟩ <;> simp

/-- What was refused is made up for where there is a directory. -/
theorem perform_unless_isDirectory (path : Path) (cause : Error) (fs : FileSystem) :
    (do unless (← get).isDirectory path do throw cause : Disk Unit).perform fs
      = if fs.isDirectory path then (.ok (), fs) else (.error cause, fs) := by
  rw [perform_bind, perform_get]
  cases there : fs.isDirectory path <;> simp [there]

/-! ## Relations that computations stay within -/

/-- Every run of the computation leaves a file system that is related to its start. -/
def Within (relation : FileSystem → FileSystem → Prop) (action : Disk α) : Prop :=
  ∀ fs, relation fs (action.perform fs).2

section Within

variable {relation : FileSystem → FileSystem → Prop}

theorem Within.of_perform {outcome : Except Error α} {fs after : FileSystem}
    (within : action.Within relation) (performed : action.perform fs = (outcome, after)) :
    relation fs after := by
  have related := within fs
  rwa [performed] at related

theorem Within.mono {larger : FileSystem → FileSystem → Prop} (within : action.Within relation)
    (implied : ∀ fs after, relation fs after → larger fs after) : action.Within larger :=
  fun fs => implied fs _ (within fs)

/-- A computation that only reads stays within every reflexive relation. -/
theorem within_of_unchanged [Std.Refl relation] (unchanged : ∀ fs, (action.perform fs).2 = fs) :
    action.Within relation := by
  intro fs
  rw [unchanged fs]
  exact refl_of relation fs

theorem within_pure [Std.Refl relation] (value : α) : (pure value : Disk α).Within relation :=
  within_of_unchanged fun _ => rfl

theorem within_throw [Std.Refl relation] (error : Error) :
    (throw error : Disk α).Within relation :=
  within_of_unchanged fun _ => rfl

theorem within_liftM [Std.Refl relation] (outcome : Except Error α) :
    (liftM outcome : Disk α).Within relation :=
  within_of_unchanged fun _ => rfl

theorem within_ask [Std.Refl relation] (query : FileSystem → Except IoFault α) :
    (ask query).Within relation :=
  within_of_unchanged fun fs => by rw [perform_ask]

theorem within_change [Std.Refl relation] {update : FileSystem → Except IoFault FileSystem}
    (related : ∀ fs after, update fs = .ok after → relation fs after) :
    (change update).Within relation := by
  intro fs
  rw [perform_change]
  cases updated : update fs with
  | ok after => exact related fs after updated
  | error fault => exact refl_of relation fs

theorem within_bind [IsTrans FileSystem relation] (first : action.Within relation)
    (rest : ∀ value, (next value).Within relation) : (action >>= next).Within relation := by
  intro fs
  have start := first fs
  rw [perform_bind]
  rcases outcome : action.perform fs with ⟨error | value, middle⟩ <;> rw [outcome] at start
  · exact start
  · exact trans_of relation start (rest value middle)

theorem within_tryCatch [IsTrans FileSystem relation] {handler : Error → Disk α}
    (first : action.Within relation) (handled : ∀ error, (handler error).Within relation) :
    (tryCatch action handler).Within relation := by
  intro fs
  have start := first fs
  rw [perform_tryCatch]
  rcases outcome : action.perform fs with ⟨error | value, middle⟩ <;> rw [outcome] at start
  · exact trans_of relation start (handled error middle)
  · exact start

end Within

/-- Every run of the computation that fails leaves a file system that is related to its start. -/
def FailsWithin (relation : FileSystem → FileSystem → Prop) (action : Disk α) : Prop :=
  ∀ fs error after, action.perform fs = (.error error, after) → relation fs after

theorem eq_ok_of_unchanged (unchanged : action.Within Eq)
    (success : (action >>= next).perform fs = (.ok result, after)) :
    ∃ value, action.perform fs = (.ok value, fs) ∧
      (next value).perform fs = (.ok result, after) := by
  obtain ⟨value, middle, first, second⟩ := bind_eq_ok.mp success
  have same : fs = middle := by
    have start := unchanged fs
    rwa [first] at start
  rw [← same] at first second
  exact ⟨value, first, second⟩

theorem eq_error_of_unchanged (unchanged : action.Within Eq)
    (failure : (action >>= next).perform fs = (.error error, after)) :
    after = fs ∨ ∃ value, action.perform fs = (.ok value, fs) ∧
      (next value).perform fs = (.error error, after) := by
  have start := unchanged fs
  rcases bind_eq_error.mp failure with first | ⟨value, middle, first, second⟩
  · rw [first] at start
    exact .inl start.symm
  · have same : fs = middle := by rwa [first] at start
    rw [← same] at first second
    exact .inr ⟨value, first, second⟩

theorem eq_ok_of_liftM {outcome : Except Error α}
    (success : ((liftM outcome : Disk α) >>= next).perform fs = (.ok result, after)) :
    ∃ value, outcome = .ok value ∧ (next value).perform fs = (.ok result, after) := by
  obtain ⟨value, first, second⟩ := eq_ok_of_unchanged (within_liftM outcome) success
  exact ⟨value, (Prod.mk.inj first).1, second⟩

section FailsWithin

variable {relation : FileSystem → FileSystem → Prop}

/-- What comes after a computation that only reads decides what a failure leaves. -/
theorem failsWithin_bind_of_unchanged [Std.Refl relation] (unchanged : action.Within Eq)
    (rest : ∀ value, (next value).FailsWithin relation) :
    (action >>= next).FailsWithin relation := by
  intro fs error after failed
  rcases eq_error_of_unchanged unchanged failed with same | ⟨value, _, second⟩
  · rw [same]
    exact refl_of relation fs
  · exact rest value fs error after second

theorem failsWithin_bind_pure (first : action.FailsWithin relation) (value : α → β) :
    (action >>= fun result => pure (value result)).FailsWithin relation := by
  intro fs error after failed
  rcases bind_eq_error.mp failed with inFirst | ⟨result, middle, _, second⟩
  · exact first fs error after inFirst
  · cases (Prod.mk.inj second).1

end FailsWithin

end Restripe.Disk
