import Restripe.Proofs.Transition.Chain

/-!
# Why an epoch or a transition fails

Neither beginning an epoch nor a transition stops with what should never happen, as long as its
files can be named in a block mapping.  Where they cannot, the mapping is not written, and nothing
else goes wrong.
-/

/-!
## Why a computation over a file system fails

A computation fails only for some reasons when no file system makes it fail for another.  File
operations fail only because they are refused; reading a metadata file may fail because of what the
file holds besides.
-/

namespace Restripe

/-- A file operation was refused. -/
def Error.IsIo (error : Error) : Prop := ∃ fault, error = .io fault

/-- A file operation was refused, or a metadata file is malformed. -/
def Error.IsLoading (error : Error) : Prop :=
  error.IsIo ∨ ∃ path line cause, error = .parse path line cause

namespace Disk

variable {α β : Type} {allowed narrow : Error → Prop} {action : Disk α} {next : α → Disk β}

/-- The computation fails only with errors that are allowed. -/
def FailsOnly (allowed : Error → Prop) (action : Disk α) : Prop :=
  ∀ fs error after, action.perform fs = (.error error, after) → allowed error

theorem FailsOnly.mono (fails : action.FailsOnly narrow)
    (implied : ∀ error, narrow error → allowed error) : action.FailsOnly allowed :=
  fun fs error after failed => implied error (fails fs error after failed)

theorem failsOnly_pure (value : α) : (pure value : Disk α).FailsOnly allowed := by
  intro _ _ _ failed
  cases (Prod.mk.inj failed).1

theorem failsOnly_throw {error : Error} (isAllowed : allowed error) :
    (throw error : Disk α).FailsOnly allowed := by
  intro _ _ _ failed
  exact Except.error.inj (Prod.mk.inj failed).1 ▸ isAllowed

theorem failsOnly_liftM {outcome : Except Error α}
    (fails : ∀ error, outcome = .error error → allowed error) :
    (liftM outcome : Disk α).FailsOnly allowed :=
  fun _ error _ failed => fails error (Prod.mk.inj failed).1

theorem failsOnly_ask (query : FileSystem → Except IoFault α) :
    (ask query).FailsOnly Error.IsIo := by
  intro fs error after failed
  rw [perform_ask] at failed
  cases refused : query fs with
  | ok value =>
      rw [refused] at failed
      cases (Prod.mk.inj failed).1
  | error fault =>
      rw [refused] at failed
      exact ⟨fault, (Except.error.inj (Prod.mk.inj failed).1).symm⟩

theorem failsOnly_change (update : FileSystem → Except IoFault FileSystem) :
    (change update).FailsOnly Error.IsIo := by
  intro fs error after failed
  rw [perform_change] at failed
  split at failed
  · cases (Prod.mk.inj failed).1
  · rename_i fault _
    exact ⟨fault, (Except.error.inj (Prod.mk.inj failed).1).symm⟩

theorem failsOnly_bind (first : action.FailsOnly allowed)
    (rest : ∀ value, (next value).FailsOnly allowed) : (action >>= next).FailsOnly allowed := by
  intro fs error after failed
  rcases bind_eq_error.mp failed with inFirst | ⟨value, middle, _, second⟩
  · exact first fs error after inFirst
  · exact rest value middle error after second

theorem failsOnly_tryCatch {handler : Error → Disk α} (first : action.FailsOnly narrow)
    (handled : ∀ error, narrow error → (handler error).FailsOnly allowed) :
    (tryCatch action handler).FailsOnly allowed := by
  intro fs error after failed
  rw [perform_tryCatch] at failed
  rcases outcome : action.perform fs with ⟨cause | value, middle⟩ <;> rw [outcome] at failed
  · exact handled cause (first fs cause middle outcome) middle error after failed
  · cases (Prod.mk.inj failed).1

/-! ### File operations -/

theorem failsOnly_makeDirectoriesUpTo (depth : Nat) (path : Path) :
    (makeDirectoriesUpTo depth path).FailsOnly Error.IsIo := by
  have accept : ∀ (path : Path) (cause : Error), cause.IsIo → (do
      unless (← get).isDirectory path do throw cause : Disk Unit).FailsOnly Error.IsIo := by
    intro path cause isIo fs error after failed
    rw [perform_unless_isDirectory] at failed
    split at failed
    · cases (Prod.mk.inj failed).1
    · exact Except.error.inj (Prod.mk.inj failed).1 ▸ isIo
  induction depth generalizing path with
  | zero => exact failsOnly_pure ()
  | succ depth ih =>
      simp only [makeDirectoriesUpTo]
      split
      · exact failsOnly_pure ()
      · refine failsOnly_tryCatch (failsOnly_change _) fun error isIo => ?_
        split
        · split
          · exact failsOnly_bind (ih _) fun _ =>
              failsOnly_tryCatch (failsOnly_change _) (accept path)
          · exact failsOnly_tryCatch (failsOnly_change _) (accept path)
        · exact accept path _ isIo

theorem failsOnly_makeParents (path : Path) : (makeParents path).FailsOnly Error.IsIo := by
  unfold makeParents
  split
  · exact failsOnly_makeDirectoriesUpTo _ _
  · exact failsOnly_pure ()

theorem failsOnly_write (path : Path) (content : Bytes) :
    (write path content).FailsOnly Error.IsIo :=
  failsOnly_change _

end Disk

open Disk

theorem failsOnly_writeAtomic (path : Path) (content : Bytes) :
    (writeAtomic path content).FailsOnly Error.IsIo := by
  have publish : (AtomicWrite.Stage.publish.perform path content).FailsOnly Error.IsIo := by
    refine failsOnly_tryCatch (failsOnly_change _) fun cause isIo => ?_
    refine failsOnly_bind ?_ fun _ => failsOnly_throw isIo
    exact failsOnly_tryCatch (failsOnly_change _) fun _ _ => failsOnly_pure ()
  refine failsOnly_bind (failsOnly_makeParents path) fun _ => ?_
  refine failsOnly_bind (failsOnly_write _ _) fun _ => ?_
  refine failsOnly_bind (failsOnly_write _ _) fun _ => ?_
  refine failsOnly_bind (failsOnly_pure ()) fun _ => ?_
  exact failsOnly_bind publish fun _ => failsOnly_pure ()

theorem failsOnly_loadWith {α : Type} (parse : Bytes → Except Flaw α) (path : Path) :
    (loadWith parse path).FailsOnly Error.IsLoading := by
  refine failsOnly_bind ((failsOnly_ask _).mono fun _ => .inl) fun bytes => ?_
  split
  · exact failsOnly_pure _
  · exact failsOnly_throw (.inr ⟨_, _, _, rfl⟩)

/-! ## Epochs and transitions -/

open FileSystem Outcome

theorem Error.IsIo.isForeseen {error : Error} (isIo : error.IsIo) : error.IsForeseen := by
  obtain ⟨fault, same⟩ := isIo
  exact same ▸ trivial

theorem Error.IsLoading.isForeseen {error : Error} (isLoading : error.IsLoading) :
    error.IsForeseen := by
  rcases isLoading with isIo | ⟨path, line, cause, same⟩
  · exact isIo.isForeseen
  · exact same ▸ trivial

theorem ProvenanceTable.failsOnly_save (table : ProvenanceTable) (path : Path) :
    (table.save path).FailsOnly fun error =>
      error.IsForeseen ∨ error.IsUnwritable ∧ ¬table.Portable := by
  refine Disk.failsOnly_bind (Disk.failsOnly_liftM fun error failed => ?_) fun text => ?_
  · refine .inr ⟨unwritable_of_render failed, fun portable => ?_⟩
    obtain ⟨text, rendered⟩ := portable.exists_render
    rw [failed] at rendered
    cases rendered
  · exact (failsOnly_writeAtomic _ _).mono fun _ isIo => .inl isIo.isForeseen

namespace Transition

variable {config : Config} {fanIn : UInt16} {fs after : FileSystem} {error : Error}

/-! ### Before the solver -/

theorem foreseen_of_validate (failed : config.validate = .error error) : error.IsForeseen := by
  rcases bind_eq_error.mp failed with inCluster | ⟨_, _, failed⟩
  · exact Cluster.foreseen_of_validate inCluster
  · dsimp only at failed
    split at failed
    · exact Except.error.inj failed ▸ trivial
    · cases failed

theorem failsOnly_loadRows (config : Config) (path : Path) (width : UInt16) (expected : UInt32) :
    (loadRows config path width expected).FailsOnly Error.IsForeseen := by
  refine Disk.failsOnly_bind ((failsOnly_loadWith _ _).mono fun _ => Error.IsLoading.isForeseen)
    fun placement => ?_
  dsimp only
  split
  · exact Disk.failsOnly_bind (Disk.failsOnly_throw trivial) fun _ => Disk.failsOnly_pure _
  · exact Disk.failsOnly_pure _

theorem failsOnly_loadBefore (config : Config) :
    (loadBefore config).FailsOnly Error.IsForeseen := by
  unfold loadBefore
  split
  · exact Disk.failsOnly_pure _
  · exact (failsOnly_loadWith _ _).mono fun _ => Error.IsLoading.isForeseen

theorem failsOnly_prepare (config : Config) : (prepare config).FailsOnly Error.IsForeseen :=
  Disk.failsOnly_bind (Disk.failsOnly_liftM fun _ => foreseen_of_validate) fun _ =>
    Disk.failsOnly_bind (failsOnly_loadRows _ _ _ _) fun _ =>
      Disk.failsOnly_bind (failsOnly_loadBefore config) fun _ => Disk.failsOnly_pure _

theorem failsOnly_savePlan (locations : Locations) (groups : List StripeGroup) (log : Bytes) :
    (locations.savePlan groups log).FailsOnly Error.IsIo :=
  Disk.failsOnly_bind (failsOnly_writeAtomic _ _) fun _ =>
    Disk.failsOnly_bind (failsOnly_writeAtomic _ _) fun _ =>
      Disk.failsOnly_bind (Disk.failsOnly_makeParents _) fun _ => Disk.failsOnly_write _ _

/-! ### Reconciling -/

/-- What a transition carries over and places can be named in a block mapping. -/
def Nameable (config : Config) (before : ProvenanceTable) : Prop :=
  config.managed = false → config.locations.dataDirectory.IsPlain ∧ before.NamesPlain

/-- Once the configuration is valid, reconciling artifacts fails as is foreseen, or for a path that
is no token. -/
theorem failsOnly_finish (host : Host) (valid : config.validate = .ok fanIn)
    (before : ProvenanceTable) (solver : Option String) (log : Option Path) :
    (finish host config fanIn before solver log).FailsOnly fun error =>
      error.IsForeseen ∨ error.IsUnwritable ∧ ¬Nameable config before := by
  have admits := validate_eq_ok valid
  obtain ⟨stripes, counted, -⟩ := admits.stripesAfter_eq
  have shape := StripeGroupShape.ofCode_eq_ok admits.toWhole config.cluster.nodes
  refine Disk.failsOnly_bind (Disk.failsOnly_liftM fun error failed => ?_) fun _ => ?_
  · rw [counted] at failed
    cases failed
  refine Disk.failsOnly_bind ((failsOnly_loadRows _ _ _ _).mono fun _ => .inl) fun placement => ?_
  refine Disk.failsOnly_bind (Disk.failsOnly_liftM fun error failed => ?_) fun _ => ?_
  · rw [shape] at failed
    cases failed
  refine Disk.failsOnly_bind ((failsOnly_loadWith _ _).mono fun _ isLoading =>
    .inl isLoading.isForeseen) fun groups => ?_
  -- the table that is saved is known only where the reconciliation succeeds
  intro fs error after failed
  rcases Disk.bind_eq_error.mp failed with inReconcile | ⟨result, middle, reconciled, failed⟩
  · exact .inl (foreseen_of_reconcile (Prod.mk.inj inReconcile).1)
  · rcases Disk.bind_eq_error.mp failed with inSave | ⟨_, _, _, impossible⟩
    · refine (result.table.failsOnly_save _ _ _ _ inSave).imp_right
        (And.imp_right fun notPortable nameable => notPortable ?_)
      exact portable_of_reconcile (fun unmanaged => (nameable unmanaged).1)
        (fun unmanaged => (nameable unmanaged).2) (Prod.mk.inj reconciled).1
    · cases (Prod.mk.inj impossible).1

theorem failure_of_runTransition (host : Host)
    (failed : (runTransition host config .inProcess).perform fs = (.error error, after)) :
    error.IsForeseen ∨ error.IsUnwritable ∧
      ∃ before, (loadBefore config).perform fs = (.ok before, fs) ∧ ¬Nameable config before := by
  rcases Disk.bind_eq_error.mp failed with inPrepare | ⟨⟨fanIn, before⟩, middle, success, failed⟩
  · exact .inl (failsOnly_prepare config _ _ _ inPrepare)
  · obtain ⟨unchanged, placement, prepared⟩ := prepare_eq_ok.mp success
    rw [unchanged] at failed
    obtain ⟨groups, retained, plans, -⟩ := prepared.exists_plan
    rcases Disk.bind_eq_error.mp failed with inSolve | ⟨_, _, _, inFinish⟩
    · rcases Disk.bind_eq_error.mp inSolve with inSave | ⟨_, _, _, impossible⟩
      · rw [Solver.solve, prepared.perform_solve plans] at inSave
        exact .inl (failsOnly_savePlan _ _ _ _ _ _ inSave).isForeseen
      · cases (Prod.mk.inj impossible).1
    · exact (failsOnly_finish host prepared.valid before _ _ _ _ _ inFinish).imp_right
        (And.imp_right fun notNameable => ⟨before, prepared.loaded, notNameable⟩)

theorem failure_of_reconcileArtifacts (host : Host)
    (failed : (reconcileArtifacts host config).perform fs = (.error error, after)) :
    error.IsForeseen ∨ error.IsUnwritable ∧
      ∃ before, (loadBefore config).perform fs = (.ok before, fs) ∧ ¬Nameable config before := by
  rcases Disk.bind_eq_error.mp failed with invalid | ⟨fanIn, middle, success, failed⟩
  · exact .inl (foreseen_of_validate (Prod.mk.inj invalid).1)
  · obtain ⟨valid, unchanged⟩ := Prod.mk.inj success
    rw [← unchanged] at failed
    rcases Disk.bind_eq_error.mp failed with inLoad | ⟨before, last, loaded, inFinish⟩
    · exact .inl (failsOnly_loadBefore config _ _ _ inLoad)
    · rw [← (loadBefore_unchanged config).of_perform loaded] at loaded
      exact (failsOnly_finish host valid before _ _ _ _ _ inFinish).imp_right
        (And.imp_right fun notNameable => ⟨before, loaded, notNameable⟩)

/-! ### Beginning an epoch -/

theorem failure_of_beginEpoch (failed : (beginEpoch config).perform fs = (.error error, after)) :
    error.IsForeseen ∨ error = .fault .tooManyDraws ∨
      error.IsUnwritable ∧ ¬config.locations.dataDirectory.IsPlain := by
  rcases Disk.bind_eq_error.mp failed with invalid | ⟨fanIn, start, success, failed⟩
  · exact .inl (foreseen_of_validate (Prod.mk.inj invalid).1)
  have admits := validate_eq_ok (Prod.mk.inj success).1
  have drawn := Placement.drawn_of_generate admits config.solver.seed
  rcases Disk.bind_eq_error.mp failed with inDraw | ⟨placement, _, generated, failed⟩
  · rcases drawn with ⟨placement, generated, -⟩ | givenUp
    · rw [Disk.perform_liftM, generated] at inDraw
      cases (Prod.mk.inj inDraw).1
    · rw [Disk.perform_liftM, givenUp] at inDraw
      exact .inr (.inl (Except.error.inj (Prod.mk.inj inDraw).1).symm)
  obtain ⟨other, otherGenerated, isDrawn⟩ := drawn.resolve_right fun givenUp => by
    rw [Disk.perform_liftM, givenUp] at generated
    cases (Prod.mk.inj generated).1
  have same : other = placement :=
    Except.ok.inj (otherGenerated.symm.trans (Prod.mk.inj generated).1)
  obtain ⟨table, begins⟩ :=
    exists_initialProvenance (addressable_of_drawn isDrawn) config.locations.dataDirectory
  rw [same] at begins
  rw [Disk.perform_bind_ok (Disk.perform_liftM_ok begins _)] at failed
  rcases Disk.bind_eq_error.mp failed with inPlacement | ⟨_, _, _, failed⟩
  · exact .inl (failsOnly_writeAtomic _ _ _ _ _ inPlacement).isForeseen
  rcases Disk.bind_eq_error.mp failed with inTable | ⟨_, _, _, impossible⟩
  · exact (table.failsOnly_save _ _ _ _ inTable).imp_right fun unwritable =>
      .inr (unwritable.imp_right fun notPortable plain =>
        notPortable (portable_of_initialProvenance plain begins))
  · cases (Prod.mk.inj impossible).1

/-- Every failure of a new epoch, of a transition with the solver of this library, and of
reconciling artifacts is blamed on the configuration, an input file, the solver or the file system,
as long as the files can be named in a block mapping and the draws of a new epoch come to an end.
What should never happen is only told of a path that is no token. -/
theorem failure_foreseen (host : Host) (config : Config) (fs : FileSystem) :
    (∀ error after, (beginEpoch config).perform fs = (.error error, after) →
      error.IsForeseen ∨ error = .fault .tooManyDraws ∨
        error.IsUnwritable ∧ ¬config.locations.dataDirectory.IsPlain) ∧
    ∀ run ∈ [runTransition host config .inProcess, reconcileArtifacts host config],
      ∀ error after, run.perform fs = (.error error, after) →
        error.IsForeseen ∨ error.IsUnwritable ∧
          ∃ before, (loadBefore config).perform fs = (.ok before, fs) ∧
            ¬Nameable config before := by
  refine ⟨fun _ _ => failure_of_beginEpoch, ?_⟩
  simp only [List.forall_mem_cons, List.not_mem_nil, false_implies, implies_true, and_true]
  exact ⟨fun _ _ => failure_of_runTransition host, fun _ _ => failure_of_reconcileArtifacts host⟩

theorem failure_foreseen_vacant :
    (runTransition idle paired .inProcess).perform vacant = (.error (.io .notFound), vacant) ∧
    (Error.io .notFound).IsForeseen := by
  have missing : (runTransition idle paired .inProcess).perform vacant
      = (.error (.io .notFound), vacant) := by decide +kernel
  refine ⟨missing, ?_⟩
  rcases (failure_foreseen idle paired vacant).2 _ List.mem_cons_self _ _ missing with
    foreseen | ⟨⟨key, path, impossible, -⟩, -⟩
  · exact foreseen
  · cases impossible

/-- The stripes of `paired`, in a directory whose name has a blank. -/
def spaced : Config :=
  { paired with locations := { metadataDirectory := ⟨[]⟩, dataDirectory := .ofString "my data" } }

/-- The configuration is valid and has no files yet, and its epoch fails with what should never
happen. -/
theorem beginEpoch_spaced :
    (∃ fanIn, spaced.validate = .ok fanIn) ∧
    ∃ node after, (beginEpoch spaced).perform vacant = (.error (.internal (.unwritableLocation
      ⟨0, 0⟩ (initialBlockPath spaced.locations.dataDirectory node ⟨0, 0⟩))), after) :=
  ⟨⟨2, rfl⟩, 2, ((beginEpoch spaced).perform vacant).2, by decide +kernel⟩

end Transition

end Restripe
