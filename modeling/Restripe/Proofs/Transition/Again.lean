import Restripe.Proofs.FileSystem.Again
import Restripe.Proofs.Transition.Chain

/-!
# A transition run again

What a transition writes follows from what it has read, and it reads nothing that it writes before.
So a transition that is run again decides the same, and so does reconciling the artifacts that it
has left.  The first needs to write the artifacts once more: that succeeds unless a directory for
one artifact has come to lie where another has its temporary file.
-/

namespace Restripe

open FileSystem Outcome

namespace Transition

variable {host : Host} {config : Config} {fs after : FileSystem} {written : Report}

/-! ## Decisions -/

/-- What a transition decides, from what it reads to the text of the new block mapping. -/
structure Decision where
  fanIn : UInt16
  before : ProvenanceTable
  placement : Placement
  groups : List StripeGroup
  retained : Nat
  result : Reconciled
  text : Text

namespace Decision

def write (decision : Decision) (config : Config) : Disk Unit := do
  config.locations.savePlan decision.groups
    (planLog config decision.placement decision.groups decision.retained)
  writeAtomic config.locations.postBlockMappingPath (Utf8.encode decision.text)

/-- What is reported of a decision, by the solver or without one. -/
def report (decision : Decision) (config : Config) (solver : Option String)
    (log : Option Path) : Report :=
  Transition.report config decision.fanIn solver log decision.groups.length decision.result.stats

end Decision

/-- What is on disk leads to the decision. -/
structure Decides (host : Host) (config : Config) (fs : FileSystem) (decision : Decision) :
    Prop where
  prepared : Prepared config fs decision.fanIn decision.before decision.placement
  plans : Planned config decision.placement decision.groups decision.retained
  reconciled : reconcile host.processors (input config decision.before
    (StripeGroup.placement decision.groups) decision.groups) = .ok decision.result
  rendered : decision.result.table.render = .ok decision.text

/-- A transition succeeds where it comes to a decision and can write it. -/
theorem runTransition_eq_ok (apart : config.locations.Apart fs) :
    (runTransition host config .inProcess).perform fs = (.ok written, after) ↔
      ∃ decision, Decides host config fs decision ∧
        (decision.write config).perform fs = (.ok (), after) ∧
        written = decision.report config (some Solver.inProcess.name)
          (some config.locations.solverLogPath) := by
  constructor
  · intro success
    obtain ⟨fanIn, before, placement, groups, retained, middle, prepared, plans, saved, finished⟩ :=
      steps_of_runTransition success
    rw [perform_finish host prepared.valid (prepared.covers plans)
      (solved_of_savePlan apart saved)] at finished
    obtain ⟨result, text, reconciled, rendered, replaced, isReport⟩ := conclude_eq_ok.mp finished
    exact ⟨⟨fanIn, before, placement, groups, retained, result, text⟩,
      ⟨prepared, plans, reconciled, rendered⟩, (Disk.perform_bind_ok saved).trans replaced,
      isReport⟩
  · intro ⟨decision, decides, writes, isReport⟩
    obtain ⟨_, middle, saved, replaced⟩ := Disk.bind_eq_ok.mp writes
    have covers := decides.prepared.covers decides.plans
    rw [decides.prepared.perform_runTransition host decides.plans saved,
      perform_finish host decides.prepared.valid covers (solved_of_savePlan apart saved)]
    exact conclude_eq_ok.mpr ⟨decision.result, decision.text, decides.reconciled,
      decides.rendered, replaced, isReport⟩

/-! ## Deciding again -/

theorem perform_load_of_writesOnly {α : Type} {parse : Bytes → Except Flaw α} {path : Path}
    {paths : List Path} {value : α} (loaded : (loadWith parse path).perform fs = (.ok value, fs))
    (writes : WritesOnly paths fs after)
    (elsewhere : ∀ other ∈ paths, fs.target other ≠ fs.target path) :
    (loadWith parse path).perform after = (.ok value, after) := by
  obtain ⟨-, bytes, content, read⟩ := loadWith_eq_ok.mp loaded
  exact loadWith_eq_ok.mpr ⟨rfl, bytes, read_of_writesOnly content writes elsewhere, read⟩

theorem Decision.within_write (decision : Decision) (config : Config) :
    (decision.write config).Within (WritesOnly (config.locations.solverFiles ++
      [config.locations.postBlockMappingPath, config.locations.postBlockMappingPath.temporary])) :=
  Disk.within_bind
    ((config.locations.within_savePlan _ _).enlarge (List.subset_append_left _ _)) fun _ =>
      (within_writeAtomic _ _).enlarge (List.subset_append_right _ _)

section Writes

variable {decision : Decision} (apart : config.locations.Apart fs)
  (writes : (decision.write config).perform fs = (.ok (), after))

include apart writes

theorem apart_of_write : config.locations.Apart after :=
  apart.of_workingDirectory ((decision.within_write config).of_perform writes).workingDirectory

theorem solved_of_write : Solved config after decision.groups ∧
    after.read config.locations.postBlockMappingPath = .ok (Utf8.encode decision.text) := by
  obtain ⟨_, middle, saved, replaced⟩ := Disk.bind_eq_ok.mp writes
  have planWrites := (config.locations.within_savePlan _ _).of_perform saved
  have apartMiddle := apart.of_workingDirectory planWrites.workingDirectory
  exact ⟨(solved_of_savePlan apart saved).of_writesOnly
    ((within_writeAtomic _ _).of_perform replaced) (apartMiddle.saved_ne 3 2 (by decide) rfl rfl)
    (apartMiddle.saved_ne 3 4 (by decide) rfl rfl), read_of_writeAtomic replaced⟩

/-- Nothing that is written has been read, so the same is decided again. -/
theorem Decides.of_write (decides : Decides host config fs decision) :
    Decides host config after decision := by
  have within := (decision.within_write config).of_perform writes
  -- the placement and the mapping before have the first two places among the artifacts
  have load {α : Type} {parse : Bytes → Except Flaw α} {value : α} (place : Nat) {path : Path}
      (isRead : place < 2) (atPlace : config.locations.artifactPaths[place]? = some path)
      (loaded : (loadWith parse path).perform fs = (.ok value, fs)) :
      (loadWith parse path).perform after = (.ok value, after) := by
    have unsolved : place ∉ [2, 4, 5] := by
      simp only [List.mem_cons, List.not_mem_nil, or_false]
      omega
    exact perform_load_of_writesOnly loaded within (List.forall_mem_append.mpr
      ⟨apart.solverFiles_ne place unsolved atPlace, apart.saved_ne 3 place (by omega) rfl atPlace⟩)
  refine ⟨⟨decides.prepared.valid, load 0 (by decide) rfl decides.prepared.placed,
    decides.prepared.length_eq, ?_⟩, decides.plans, decides.reconciled, decides.rendered⟩
  have loaded := decides.prepared.loaded
  unfold loadBefore at loaded ⊢
  split
  · rename_i managed
    rw [if_pos managed] at loaded
    rw [Except.ok.inj (Prod.mk.inj loaded).1.symm]
    rfl
  · rename_i unmanaged
    rw [if_neg unmanaged] at loaded
    exact load 1 (by decide) rfl loaded

end Writes

/-! ## Writing again -/

/-- Everything that a transition writes can be written. -/
structure Rewritable (config : Config) (fs : FileSystem) : Prop where
  placement : fs.Replaceable config.locations.postPlacementPath
  groups : fs.Replaceable config.locations.stripeGroupsPath
  log : fs.Openable config.locations.solverLogPath
  mapping : fs.Replaceable config.locations.postBlockMappingPath

/-- Where everything can be written, all of it is: no write makes a directory that would be in the
way of the next. -/
theorem Rewritable.exists_write (rewritable : Rewritable config fs) (decision : Decision) :
    ∃ after, (decision.write config).perform fs = (.ok (), after) := by
  obtain ⟨first, placementSaved, firstRewrites⟩ := rewritable.placement.exists_writeAtomic
    (Utf8.encode (Placement.render (StripeGroup.placement decision.groups)))
  obtain ⟨second, groupsSaved, rest⟩ := (rewritable.groups.of_rewrites
    firstRewrites).exists_writeAtomic (Utf8.encode (StripeGroup.render decision.groups))
  have secondRewrites := firstRewrites.append rest
  obtain ⟨third, logged, rest⟩ := (rewritable.log.of_rewrites secondRewrites).exists_write
    (planLog config decision.placement decision.groups decision.retained)
  have thirdRewrites := secondRewrites.append rest
  obtain ⟨after, mappingSaved, -⟩ := (rewritable.mapping.of_rewrites
    thirdRewrites).exists_writeAtomic (Utf8.encode decision.text)
  have saved := Locations.savePlan_eq_ok.mpr ⟨first, second, placementSaved, groupsSaved, logged⟩
  exact ⟨after, (Disk.perform_bind_ok saved).trans mappingSaved⟩

section Writes

variable {decision : Decision} (apart : config.locations.Apart fs)
  (writes : (decision.write config).perform fs = (.ok (), after))

include apart writes

theorem replaceable_mapping_of_write :
    after.Replaceable config.locations.postBlockMappingPath := by
  obtain ⟨-, mappingRead⟩ := solved_of_write apart writes
  obtain ⟨_, third, -, replaced⟩ := Disk.bind_eq_ok.mp writes
  exact replaceable_of_writeAtomic replaced (.refl [] after) (isFree_of_read mappingRead)
    (isFree_temporary_after_writeAtomic replaced)

/-- Once everything is written, it can be written again, unless a directory has come to lie where
one of the first two files has its temporary file. -/
theorem rewritable_of_write
    (placementFree : after.IsFree config.locations.postPlacementPath.temporary)
    (groupsFree : after.IsFree config.locations.stripeGroupsPath.temporary) :
    Rewritable config after := by
  obtain ⟨solved, -⟩ := solved_of_write apart writes
  obtain ⟨_, third, saved, replaced⟩ := Disk.bind_eq_ok.mp writes
  obtain ⟨first, second, placementSaved, groupsSaved, logged⟩ := Locations.savePlan_eq_ok.mp saved
  obtain ⟨_, parented, parents, logs⟩ := Disk.bind_eq_ok.mp logged
  have logWritten := Disk.change_eq_ok.mp logs
  have mappingWrites := (within_writeAtomic _ _).of_perform replaced
  have second_after :=
    ((config.locations.within_writeLog _).of_perform logged).append mappingWrites
  have first_after := ((within_writeAtomic _ _).of_perform groupsSaved).append second_after
  have parented_after := (writesOnly_write logWritten).append mappingWrites
  have apartThird := apart.of_workingDirectory
    ((config.locations.within_savePlan _ _).of_perform saved).workingDirectory
  have logHeld := AtomicWrite.content?_of_write logs
  rw [← mappingWrites.contents _ (apartThird.saved_ne 3 5 (by decide) rfl rfl),
    ← target_congr mappingWrites.workingDirectory] at logHeld
  exact {
    placement := replaceable_of_writeAtomic placementSaved first_after
      (isFree_of_read solved.placement) placementFree
    groups := replaceable_of_writeAtomic groupsSaved second_after
      (isFree_of_read solved.groups) groupsFree
    log := ⟨(Disk.hasParent_of_makeParents parents).of_writesOnly parented_after,
      (hasWay_of_openForWriting (write_eq_ok logWritten).1).of_writesOnly parented_after,
      isFree_of_content? logHeld⟩
    mapping := replaceable_mapping_of_write apart writes }

end Writes

/-- The temporary files of the first two artifacts are free where everything is written. -/
theorem isFree_temporary_of_write {decision : Decision}
    (writes : (decision.write config).perform fs = (.ok (), after)) :
    fs.IsFree config.locations.postPlacementPath.temporary ∧
      fs.IsFree config.locations.stripeGroupsPath.temporary := by
  obtain ⟨_, third, saved, -⟩ := Disk.bind_eq_ok.mp writes
  obtain ⟨first, second, placementSaved, groupsSaved, -⟩ := Locations.savePlan_eq_ok.mp saved
  exact ⟨isFree_temporary_of_writeAtomic placementSaved,
    (isFree_temporary_of_writeAtomic groupsSaved).of_writesOnly
      ((within_writeAtomic _ _).of_perform placementSaved)⟩

/-! ## Running again -/

theorem Decides.unique {decision other : Decision} (decides : Decides host config fs decision)
    (otherDecides : Decides host config fs other) : decision = other := by
  obtain ⟨⟨valid, placed, -, loaded⟩, ⟨planned, counted⟩, reconciled, rendered⟩ := decides
  obtain ⟨⟨otherValid, otherPlaced, -, otherLoaded⟩, ⟨otherPlanned, otherCounted⟩,
    otherReconciled, otherRendered⟩ := otherDecides
  have sameFanIn := Except.ok.inj (valid.symm.trans otherValid)
  have sameBefore := Except.ok.inj (Prod.mk.inj (loaded.symm.trans otherLoaded)).1
  have samePlacement := Except.ok.inj (Prod.mk.inj (placed.symm.trans otherPlaced)).1
  rw [samePlacement] at planned counted
  have sameGroups := Except.ok.inj (planned.symm.trans otherPlanned)
  rw [sameGroups] at counted reconciled
  rw [sameBefore] at reconciled
  have sameRetained := Except.ok.inj (counted.symm.trans otherCounted)
  have sameResult := Except.ok.inj (reconciled.symm.trans otherReconciled)
  rw [sameResult] at rendered
  have sameText := Except.ok.inj (rendered.symm.trans otherRendered)
  cases decision
  cases other
  simp_all

/-- A file is there before and after, and its content is the same. -/
def SameFile (path : Path) (fs after : FileSystem) : Prop :=
  ∃ content, fs.read path = .ok content ∧ after.read path = .ok content

/-- What a transition has left is reconciled again. -/
theorem exists_reconcileArtifacts {decision : Decision} (apart : config.locations.Apart fs)
    (decides : Decides host config fs decision)
    (writes : (decision.write config).perform fs = (.ok (), after)) :
    ∃ last, (reconcileArtifacts host config).perform after
        = (.ok (decision.report config none none), last) ∧
      SameFile config.locations.postBlockMappingPath after last := by
  obtain ⟨solved, mappingRead⟩ := solved_of_write apart writes
  obtain ⟨prepared, plans, reconciled, rendered⟩ := decides.of_write apart writes
  obtain ⟨last, replaced, -⟩ :=
    (replaceable_mapping_of_write apart writes).exists_writeAtomic (Utf8.encode decision.text)
  refine ⟨last, ?_, _, mappingRead, read_of_writeAtomic replaced⟩
  refine (Disk.perform_bind_ok (Disk.perform_liftM_ok prepared.valid after)).trans ?_
  refine (Disk.perform_bind_ok prepared.loaded).trans ?_
  rw [perform_finish host prepared.valid (prepared.covers plans) solved]
  exact conclude_eq_ok.mpr ⟨_, _, reconciled, rendered, replaced, rfl⟩

/-- What a transition has left is reconciled to the same report, but for the solver, and the same
mapping.  A transition that is run again succeeds where no directory has come to lie where the new
placement or the stripe groups have their temporary files, and then with the same report and the
same files. -/
theorem transition_again (host : Host) {config : Config} {fs after : FileSystem} {written : Report}
    (apart : config.locations.Apart fs)
    (success : (runTransition host config .inProcess).perform fs = (.ok written, after)) :
    (∃ last, (reconcileArtifacts host config).perform after
        = (.ok { written with
            solver := none
            artifacts := { written.artifacts with solverLog := none } }, last) ∧
      SameFile config.locations.postBlockMappingPath after last) ∧
    ((∃ again last, (runTransition host config .inProcess).perform after = (.ok again, last)) ↔
      after.IsFree config.locations.postPlacementPath.temporary ∧
      after.IsFree config.locations.stripeGroupsPath.temporary) ∧
    ∀ again last, (runTransition host config .inProcess).perform after = (.ok again, last) →
      again = written ∧
      ∀ path ∈ [config.locations.postPlacementPath, config.locations.stripeGroupsPath,
        config.locations.postBlockMappingPath], SameFile path after last := by
  obtain ⟨decision, decides, writes, isReport⟩ := (runTransition_eq_ok apart).mp success
  obtain ⟨solved, mappingRead⟩ := solved_of_write apart writes
  have decidesAfter := decides.of_write apart writes
  have apartAfter := apart_of_write apart writes
  refine ⟨?_, ⟨?_, ?_⟩, ?_⟩
  · rw [isReport]
    exact exists_reconcileArtifacts apart decides writes
  · intro ⟨again, last, succeeds⟩
    obtain ⟨_, -, writesAgain, -⟩ := (runTransition_eq_ok apartAfter).mp succeeds
    exact isFree_temporary_of_write writesAgain
  · intro ⟨placementFree, groupsFree⟩
    obtain ⟨last, writesAgain⟩ :=
      (rewritable_of_write apart writes placementFree groupsFree).exists_write decision
    exact ⟨_, last, (runTransition_eq_ok apartAfter).mpr ⟨decision, decidesAfter, writesAgain, rfl⟩⟩
  · intro again last succeeds
    obtain ⟨other, otherDecides, writesAgain, isAgain⟩ :=
      (runTransition_eq_ok apartAfter).mp succeeds
    rw [← decidesAfter.unique otherDecides] at writesAgain isAgain
    obtain ⟨solvedAgain, mappingAgain⟩ := solved_of_write apartAfter writesAgain
    refine ⟨isAgain.trans isReport.symm, ?_⟩
    simp only [List.forall_mem_cons, List.not_mem_nil, false_implies, implies_true, and_true]
    exact ⟨⟨_, solved.placement, solvedAgain.placement⟩, ⟨_, solved.groups, solvedAgain.groups⟩,
      ⟨_, mappingRead, mappingAgain⟩⟩

theorem transition_again_paired : paired.locations.Apart stored ∧
    ∃ written after last,
      (runTransition idle paired .inProcess).perform stored = (.ok written, after) ∧
      (runTransition idle paired .inProcess).perform after = (.ok written, last) ∧
      SameFile paired.locations.postBlockMappingPath after last := by
  have apart : paired.locations.Apart stored := ⟨by decide, by decide⟩
  obtain ⟨written, succeeds⟩ := exists_eq_ok
    ((runTransition idle paired .inProcess).perform stored).1 (by decide +kernel)
  have free : ∀ path ∈ [paired.locations.postPlacementPath, paired.locations.stripeGroupsPath],
      ((runTransition idle paired .inProcess).perform stored).2.find?
        (((runTransition idle paired .inProcess).perform stored).2.target path.temporary)
          ≠ some .directory := by
    decide +kernel
  have success : (runTransition idle paired .inProcess).perform stored = (.ok written, _) :=
    Prod.ext succeeds rfl
  obtain ⟨-, runsAgain, same⟩ := transition_again idle apart success
  obtain ⟨again, last, second⟩ := runsAgain.mpr ⟨free _ (by simp), free _ (by simp)⟩
  obtain ⟨isWritten, files⟩ := same again last second
  exact ⟨apart, written, _, last, success, isWritten ▸ second, files _ (by simp)⟩

/-- The stripes of `paired`, with the log in a directory that lies beside the new placement. -/
def nested : Config :=
  { paired with
    locations :=
      { metadataDirectory := ⟨[]⟩
        solverLog := .ofString "post_placement.tmp/log" } }

/-- The artifacts are different files and none lies at the temporary file of another, but one lies
in a directory there: the transition succeeds, and fails when it is run again. -/
theorem nested_without_second : nested.locations.Apart stored ∧
    ∃ written after last,
      (runTransition idle nested .inProcess).perform stored = (.ok written, after) ∧
      (runTransition idle nested .inProcess).perform after
        = (.error (.io .isADirectory), last) := by
  have apart : nested.locations.Apart stored := ⟨by decide, by decide⟩
  obtain ⟨written, succeeds⟩ := exists_eq_ok
    ((runTransition idle nested .inProcess).perform stored).1 (by decide +kernel)
  have fails : ((runTransition idle nested .inProcess).perform
      ((runTransition idle nested .inProcess).perform stored).2).1
        = .error (.io .isADirectory) := by
    decide +kernel
  exact ⟨apart, written, _, _, Prod.ext succeeds rfl, Prod.ext fails rfl⟩

end Transition

end Restripe
