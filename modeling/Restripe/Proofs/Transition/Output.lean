import Restripe.Proofs.FileSystem.Frame
import Restripe.Transition

/-!
# The output of a transition

A transition replaces the block mapping in its last step.  So a transition that fails leaves the
mapping as it was, and one that succeeds leaves the table that is reconciled of the artifacts on
disk.  All that is asked for is that the artifacts are different files, none of them the temporary
file of another, and that the solver changes no files but its own.
-/

namespace Restripe

open FileSystem Outcome

namespace Locations

def artifactPaths (locations : Locations) : List Path :=
  [locations.prePlacementPath, locations.preBlockMappingPath, locations.postPlacementPath,
    locations.postBlockMappingPath, locations.stripeGroupsPath, locations.solverLogPath]

/-- The artifacts are different files, and none is the temporary file of another. -/
structure Apart (locations : Locations) (fs : FileSystem) : Prop where
  different : locations.artifactPaths.Pairwise fun left right => fs.target left ≠ fs.target right
  noTemporary : ∀ left ∈ locations.artifactPaths, ∀ right ∈ locations.artifactPaths,
    fs.target left.temporary ≠ fs.target right

/-- The files of a solver: what it writes, with the temporary files beside. -/
def solverFiles (locations : Locations) : List Path :=
  [locations.postPlacementPath, locations.postPlacementPath.temporary,
    locations.stripeGroupsPath, locations.stripeGroupsPath.temporary,
    locations.solverLogPath, locations.solverLogPath.temporary]

/-- The files that the solver of this library writes, its log in place. -/
def planFiles (locations : Locations) : List Path :=
  [locations.postPlacementPath, locations.postPlacementPath.temporary,
    locations.stripeGroupsPath, locations.stripeGroupsPath.temporary, locations.solverLogPath]

variable {locations : Locations} {fs after : FileSystem}

theorem planFiles_subset : locations.planFiles ⊆ locations.solverFiles := by
  simp [planFiles, solverFiles]

theorem Apart.of_workingDirectory (apart : locations.Apart fs)
    (same : after.workingDirectory = fs.workingDirectory) : locations.Apart after := by
  have targets : after.target = fs.target := funext (target_congr same)
  exact ⟨by simpa only [targets] using apart.different,
    by simpa only [targets] using apart.noTemporary⟩

/-- Writing one artifact leaves another alone; they are given by their places among the paths. -/
theorem Apart.saved_ne (apart : locations.Apart fs) (first second : Nat)
    (different : first ≠ second) {left right : Path}
    (atFirst : locations.artifactPaths[first]? = some left)
    (atSecond : locations.artifactPaths[second]? = some right) :
    ∀ other ∈ [left, left.temporary], fs.target other ≠ fs.target right := by
  obtain ⟨firstBound, isLeft⟩ := List.getElem?_eq_some_iff.mp atFirst
  obtain ⟨secondBound, isRight⟩ := List.getElem?_eq_some_iff.mp atSecond
  have apartFiles := List.pairwise_iff_getElem.mp apart.different
  have targets : fs.target left ≠ fs.target right := by
    rw [← isLeft, ← isRight]
    rcases Nat.lt_or_gt_of_ne different with less | greater
    · exact apartFiles first second firstBound secondBound less
    · exact (apartFiles second first secondBound firstBound greater).symm
  have noTemporary := apart.noTemporary left (List.mem_of_getElem? atFirst) right
    (List.mem_of_getElem? atSecond)
  intro other member
  rcases List.mem_cons.mp member with isFile | isTemporary
  · exact isFile ▸ targets
  · exact List.mem_singleton.mp isTemporary ▸ noTemporary

/-- The files of the solver are none of the other artifacts. -/
theorem Apart.solverFiles_ne (apart : locations.Apart fs) (place : Nat) (other : place ∉ [2, 4, 5])
    {path : Path} (atPlace : locations.artifactPaths[place]? = some path) :
    ∀ file ∈ locations.solverFiles, fs.target file ≠ fs.target path := by
  have parts : locations.solverFiles =
      [locations.postPlacementPath, locations.postPlacementPath.temporary] ++
      ([locations.stripeGroupsPath, locations.stripeGroupsPath.temporary] ++
      [locations.solverLogPath, locations.solverLogPath.temporary]) := rfl
  simp only [List.mem_cons, List.not_mem_nil, or_false, not_or] at other
  rw [parts, List.forall_mem_append, List.forall_mem_append]
  exact ⟨apart.saved_ne 2 place (Ne.symm other.1) rfl atPlace,
    apart.saved_ne 4 place (Ne.symm other.2.1) rfl atPlace,
    apart.saved_ne 5 place (Ne.symm other.2.2) rfl atPlace⟩

end Locations

namespace Transition

/-! ## Reading -/

theorem loadRows_unchanged (config : Config) (path : Path) (width : UInt16) (expected : UInt32) :
    (loadRows config path width expected).Within Eq := by
  refine Disk.within_bind (loadWith_unchanged _ _) fun placement => ?_
  dsimp only
  split
  · exact Disk.within_bind (Disk.within_throw _) fun _ => Disk.within_pure _
  · exact Disk.within_pure _

theorem loadBefore_unchanged (config : Config) : (loadBefore config).Within Eq := by
  unfold loadBefore
  split
  · exact Disk.within_pure _
  · exact loadWith_unchanged _ _

theorem prepare_unchanged (config : Config) : (prepare config).Within Eq :=
  Disk.within_bind (Disk.within_liftM _) fun _ =>
    Disk.within_bind (loadRows_unchanged _ _ _ _) fun _ =>
      Disk.within_bind (loadBefore_unchanged config) fun _ => Disk.within_pure _

/-! ## Solving -/

/-- The solver changes no files but its own. -/
def Confined (config : Config) (solver : TransitionSolver) (fs : FileSystem) : Prop :=
  ChangesOnly config.locations.solverFiles fs ((solver.solve (request config)).perform fs).2

theorem within_save_placement (placement : Placement) (path : Path) :
    (placement.save path).Within (WritesOnly [path, path.temporary]) :=
  within_writeAtomic _ _

theorem within_save_groups (groups : List StripeGroup) (path : Path) :
    (StripeGroup.save groups path).Within (WritesOnly [path, path.temporary]) :=
  within_writeAtomic _ _

theorem solveInProcess_within (config : Config) :
    (request config).solveInProcess.Within (WritesOnly config.locations.planFiles) := by
  unfold SolveRequest.solveInProcess
  refine Disk.within_bind ((loadWith_unchanged _ _).mono fun fs after same => ?_) fun before => ?_
  · rw [same]
    exact .refl _ after
  refine Disk.within_bind (Disk.within_liftM _) fun groups => ?_
  refine Disk.within_bind ((within_save_placement _ _).enlarge ?_) fun _ => ?_
  · simp [Locations.planFiles, request]
  refine Disk.within_bind ((within_save_groups _ _).enlarge ?_) fun _ => ?_
  · simp [Locations.planFiles, request]
  refine Disk.within_bind (Disk.within_liftM _) fun retained => ?_
  refine Disk.within_bind (Disk.within_makeParents _) fun _ => Disk.within_write ?_ _
  simp [Locations.planFiles]

theorem confined_inProcess (host : Host) (config : Config) (fs : FileSystem) :
    Confined config (Solver.inProcess.transitionSolver host) fs :=
  have writes := (solveInProcess_within config).enlarge Locations.planFiles_subset
  (Disk.within_bind writes (fun _ => Disk.within_pure _) fs).toChangesOnly

/-! ## Reconciling what is on disk -/

/-- There is a file at the address of the path that is read as the value. -/
def Holds {α : Type} (fs : FileSystem) (path : Path) (parse : Bytes → Except Flaw α) (value : α) :
    Prop :=
  ∃ bytes, fs.content? (fs.target path) = some bytes ∧ parse bytes = .ok value

/-- The artifacts on disk hold what is reconciled. -/
structure Recorded (config : Config) (fs : FileSystem) (before : ProvenanceTable)
    (placement : Placement) (groups : List StripeGroup) : Prop where
  before : if config.managed then before = .empty
    else Holds fs config.locations.preBlockMappingPath ProvenanceTable.parse before
  placement : Holds fs config.locations.postPlacementPath
    (Placement.parse ⟨config.code.widthAfter, config.cluster.nodes⟩) placement
  groups : ∃ shape, StripeGroupShape.ofCode config.code config.cluster.nodes = .ok shape ∧
    Holds fs config.locations.stripeGroupsPath (StripeGroup.parse shape) groups

section Holds

variable {α : Type} {parse : Bytes → Except Flaw α} {path : Path} {fs after : FileSystem}
  {value : α}

theorem Holds.of_load (loaded : (loadWith parse path).perform fs = (.ok value, after)) :
    Holds fs path parse value := by
  obtain ⟨_, bytes, content, read⟩ := loadWith_eq_ok.mp loaded
  exact ⟨bytes, (read_eq_ok.mp content).2, read⟩

theorem Holds.of_changesOnly {paths : List Path} (holds : Holds fs path parse value)
    (changes : ChangesOnly paths fs after)
    (elsewhere : ∀ other ∈ paths, fs.target other ≠ fs.target path) :
    Holds after path parse value := by
  obtain ⟨bytes, content, read⟩ := holds
  refine ⟨bytes, ?_, read⟩
  rw [target_congr changes.workingDirectory, changes.contents _ elsewhere, content]

end Holds

section Rows

variable {config : Config} {path : Path} {width : UInt16} {expected : UInt32}
  {fs after : FileSystem} {placement : Placement}

/-- Rows are loaded where a placement is, and as many of them as are expected. -/
theorem perform_loadRows_eq_ok :
    (loadRows config path width expected).perform fs = (.ok placement, after) ↔
      after = fs ∧ placement.length = expected.toNat ∧
        (Placement.load ⟨width, config.cluster.nodes⟩ path).perform fs = (.ok placement, fs) := by
  constructor
  · intro loaded
    obtain ⟨found, read, counted⟩ := Disk.eq_ok_of_unchanged (loadWith_unchanged _ _) loaded
    dsimp only at counted
    split at counted
    · cases (Prod.mk.inj counted).1
    · rename_i length
      obtain ⟨same, unchanged⟩ := Prod.mk.inj counted
      rw [← Except.ok.inj same]
      exact ⟨unchanged.symm, Decidable.not_not.mp length, read⟩
  · intro ⟨unchanged, length, placed⟩
    refine (Disk.perform_bind_ok placed).trans ?_
    simp [length, unchanged]

theorem loadRows_eq_ok (loaded : (loadRows config path width expected).perform fs
    = (.ok placement, after)) :
    Holds fs path (Placement.parse ⟨width, config.cluster.nodes⟩) placement :=
  Holds.of_load (perform_loadRows_eq_ok.mp loaded).2.2

end Rows

theorem loadBefore_eq_ok {config : Config} {fs after : FileSystem} {before : ProvenanceTable}
    (loaded : (loadBefore config).perform fs = (.ok before, after)) :
    if config.managed then before = .empty
      else Holds fs config.locations.preBlockMappingPath ProvenanceTable.parse before := by
  unfold loadBefore at loaded
  split at loaded
  · rename_i managed
    rw [if_pos managed]
    exact (Except.ok.inj (Prod.mk.inj loaded).1).symm
  · rename_i notManaged
    rw [if_neg notManaged]
    exact Holds.of_load loaded

variable {host : Host} {config : Config} {fanIn : UInt16} {before : ProvenanceTable}
  {solver : Option String} {log : Option Path} {fs after : FileSystem} {written : Report}

/-- What is reconciled comes from the artifacts, and the mapping is written last. -/
theorem finish_eq_ok
    (finished : (finish host config fanIn before solver log).perform fs = (.ok written, after)) :
    ∃ placement groups result text,
      Holds fs config.locations.postPlacementPath
        (Placement.parse ⟨config.code.widthAfter, config.cluster.nodes⟩) placement ∧
      (∃ shape, StripeGroupShape.ofCode config.code config.cluster.nodes = .ok shape ∧
        Holds fs config.locations.stripeGroupsPath (StripeGroup.parse shape) groups) ∧
      reconcile host.processors (input config before placement groups) = .ok result ∧
      result.table.render = .ok text ∧
      (writeAtomic config.locations.postBlockMappingPath (Utf8.encode text)).perform fs
        = (.ok (), after) := by
  obtain ⟨stripes, _, finished⟩ := Disk.eq_ok_of_liftM finished
  obtain ⟨placement, placementLoaded, finished⟩ :=
    Disk.eq_ok_of_unchanged (loadRows_unchanged _ _ _ _) finished
  obtain ⟨shape, shape_eq, finished⟩ := Disk.eq_ok_of_liftM finished
  obtain ⟨groups, groupsLoaded, finished⟩ :=
    Disk.eq_ok_of_unchanged (loadWith_unchanged _ _) finished
  obtain ⟨result, reconciled, finished⟩ := Disk.eq_ok_of_liftM finished
  obtain ⟨_, saved, written, reported⟩ := Disk.bind_eq_ok.mp finished
  obtain ⟨text, rendered, replaced⟩ := Disk.eq_ok_of_liftM written
  rw [(Prod.mk.inj reported).2] at replaced
  exact ⟨placement, groups, result, text, loadRows_eq_ok placementLoaded,
    ⟨shape, shape_eq, Holds.of_load groupsLoaded⟩, reconciled, rendered, replaced⟩

/-- A failure leaves every file but the temporary one of the mapping. -/
theorem finish_failsWithin (host : Host) (config : Config) (fanIn : UInt16)
    (before : ProvenanceTable) (solver : Option String) (log : Option Path) :
    (finish host config fanIn before solver log).FailsWithin
      (WritesOnly [config.locations.postBlockMappingPath.temporary]) := by
  refine Disk.failsWithin_bind_of_unchanged (Disk.within_liftM _) fun stripes => ?_
  refine Disk.failsWithin_bind_of_unchanged (loadRows_unchanged _ _ _ _) fun placement => ?_
  refine Disk.failsWithin_bind_of_unchanged (Disk.within_liftM _) fun shape => ?_
  refine Disk.failsWithin_bind_of_unchanged (loadWith_unchanged _ _) fun groups => ?_
  refine Disk.failsWithin_bind_of_unchanged (Disk.within_liftM _) fun result => ?_
  refine Disk.failsWithin_bind_pure ?_ fun _ => report ..
  refine Disk.failsWithin_bind_of_unchanged (Disk.within_liftM _) fun text => ?_
  exact fun fs error after failed => writesOnly_of_writeAtomic_error failed

/-! ## All or nothing -/

/-- What a run promises of the new block mapping: a failure leaves its content, or leaves it absent,
and a success leaves the text of the table that is reconciled of the artifacts on disk. -/
structure AllOrNothing (host : Host) (config : Config) (fs : FileSystem) (run : Disk Report) :
    Prop where
  failed : ∀ error after, run.perform fs = (.error error, after) →
    after.content? (fs.target config.locations.postBlockMappingPath)
      = fs.content? (fs.target config.locations.postBlockMappingPath)
  succeeded : ∀ report after, run.perform fs = (.ok report, after) →
    ∃ before placement groups result text, Recorded config after before placement groups ∧
      reconcile host.processors (input config before placement groups) = .ok result ∧
      result.table.render = .ok text ∧
      after.content? (fs.target config.locations.postBlockMappingPath) = some (Utf8.encode text)

section Finish

variable {middle : FileSystem}

/-- What was read before is still held after a solver that has changed no files but its own, and
after the new mapping is written; so are the artifacts of the solver. -/
theorem recorded_of_written {content : Bytes} {placement : Placement} {groups : List StripeGroup}
    (apart : config.locations.Apart fs)
    (changes : ChangesOnly config.locations.solverFiles fs middle)
    (loaded : (loadBefore config).perform fs = (.ok before, fs))
    (placementHeld : Holds middle config.locations.postPlacementPath
      (Placement.parse ⟨config.code.widthAfter, config.cluster.nodes⟩) placement)
    (groupsHeld : ∃ shape, StripeGroupShape.ofCode config.code config.cluster.nodes = .ok shape ∧
      Holds middle config.locations.stripeGroupsPath (StripeGroup.parse shape) groups)
    (written : (writeAtomic config.locations.postBlockMappingPath content).perform middle
      = (.ok (), after)) : Recorded config after before placement groups := by
  have within := ((within_writeAtomic _ _).of_perform written).toChangesOnly
  have apartAfter := apart.of_workingDirectory changes.workingDirectory
  obtain ⟨shape, shape_eq, groupsHeld⟩ := groupsHeld
  refine ⟨?_, placementHeld.of_changesOnly within (apartAfter.saved_ne 3 2 (by decide) rfl rfl),
    shape, shape_eq, groupsHeld.of_changesOnly within (apartAfter.saved_ne 3 4 (by decide) rfl rfl)⟩
  have beforeHeld := loadBefore_eq_ok loaded
  split
  · rename_i managed
    rwa [if_pos managed] at beforeHeld
  · rename_i notManaged
    rw [if_neg notManaged] at beforeHeld
    exact (beforeHeld.of_changesOnly changes
      (apart.solverFiles_ne 1 (by decide) rfl)).of_changesOnly within
        (apartAfter.saved_ne 3 1 (by decide) rfl rfl)

/-- Reconciling after a solver that has changed no files but its own is all or nothing. -/
theorem finish_succeeded (apart : config.locations.Apart fs)
    (changes : ChangesOnly config.locations.solverFiles fs middle)
    (loaded : (loadBefore config).perform fs = (.ok before, fs))
    (finished : (finish host config fanIn before solver log).perform middle
      = (.ok written, after)) :
    ∃ placement groups result text, Recorded config after before placement groups ∧
      reconcile host.processors (input config before placement groups) = .ok result ∧
      result.table.render = .ok text ∧
      after.content? (fs.target config.locations.postBlockMappingPath)
        = some (Utf8.encode text) := by
  obtain ⟨placement, groups, result, text, placementHeld, groupsHeld, reconciled, rendered,
    replaced⟩ := finish_eq_ok finished
  refine ⟨placement, groups, result, text,
    recorded_of_written apart changes loaded placementHeld groupsHeld replaced, reconciled,
    rendered, ?_⟩
  have within := (within_writeAtomic _ _).of_perform replaced
  obtain ⟨_, _, _, _, content⟩ := writeAtomic_eq_ok replaced
  rwa [target_congr (within.workingDirectory.trans changes.workingDirectory)] at content

theorem finish_failed (changes : ChangesOnly config.locations.solverFiles fs middle)
    (apart : config.locations.Apart fs) {error : Error}
    (failed : (finish host config fanIn before solver log).perform middle
      = (.error error, after)) :
    after.content? (fs.target config.locations.postBlockMappingPath)
      = fs.content? (fs.target config.locations.postBlockMappingPath) := by
  have writes := finish_failsWithin host config fanIn before solver log _ _ _ failed
  rw [writes.contents, changes.contents]
  · exact apart.solverFiles_ne 3 (by decide) rfl
  · intro path isTemporary
    rw [List.mem_singleton.mp isTemporary, target_congr changes.workingDirectory]
    exact target_temporary_ne fs _

end Finish

/-- Failing before the solver is asked changes nothing, whatever the solver would have done. -/
theorem run_of_prepare_error {error : Error}
    (failed : (prepare config).perform fs = (.error error, after)) (host : Host)
    (solver : TransitionSolver) : (run host config solver).perform fs = (.error error, fs) := by
  rw [← (prepare_unchanged config).of_perform failed] at failed
  exact Disk.perform_bind_error failed

theorem loadBefore_of_prepare {fanIn : UInt16} {before : ProvenanceTable}
    (prepared : (prepare config).perform fs = (.ok (fanIn, before), after)) :
    (loadBefore config).perform fs = (.ok before, fs) := by
  obtain ⟨_, _, prepared⟩ := Disk.eq_ok_of_liftM prepared
  obtain ⟨_, _, prepared⟩ := Disk.eq_ok_of_unchanged (loadRows_unchanged _ _ _ _) prepared
  obtain ⟨table, loaded, prepared⟩ :=
    Disk.eq_ok_of_unchanged (loadBefore_unchanged config) prepared
  have same : table = before := (Prod.mk.inj (Except.ok.inj (Prod.mk.inj prepared).1)).2
  rw [loaded, same]

/-- A transition with a solver that changes no files but its own is all or nothing. -/
theorem run_allOrNothing (host : Host) (apart : config.locations.Apart fs)
    {solver : TransitionSolver} (confined : Confined config solver fs) :
    AllOrNothing host config fs (run host config solver) := by
  constructor
  · intro error after failed
    rcases Disk.eq_error_of_unchanged (prepare_unchanged config) failed with
      same | ⟨⟨fanIn, before⟩, _, failed⟩
    · rw [same]
    · have changes := confined
      unfold Confined at changes
      rcases Disk.bind_eq_error.mp failed with unsolved | ⟨log, middle, solved, failed⟩
      · rw [unsolved] at changes
        exact changes.contents _ (apart.solverFiles_ne 3 (by decide) rfl)
      · rw [solved] at changes
        exact finish_failed changes apart failed
  · intro written after success
    obtain ⟨⟨fanIn, before⟩, prepared, success⟩ :=
      Disk.eq_ok_of_unchanged (prepare_unchanged config) success
    obtain ⟨log, middle, solved, finished⟩ := Disk.bind_eq_ok.mp success
    have changes := confined
    rw [Confined, solved] at changes
    exact ⟨before, finish_succeeded apart changes (loadBefore_of_prepare prepared) finished⟩

/-- Reconciling what a solver has left is all or nothing. -/
theorem reconcileArtifacts_allOrNothing (host : Host) (apart : config.locations.Apart fs) :
    AllOrNothing host config fs (reconcileArtifacts host config) := by
  constructor
  · intro error after failed
    have within : (reconcileArtifacts host config).FailsWithin
        (WritesOnly [config.locations.postBlockMappingPath.temporary]) :=
      Disk.failsWithin_bind_of_unchanged (Disk.within_liftM _) fun fanIn =>
        Disk.failsWithin_bind_of_unchanged (loadBefore_unchanged config) fun before =>
          finish_failsWithin host config fanIn before none none
    refine (within _ _ _ failed).contents _ fun path isTemporary => ?_
    rw [List.mem_singleton.mp isTemporary]
    exact target_temporary_ne fs _
  · intro written after success
    obtain ⟨fanIn, _, success⟩ := Disk.eq_ok_of_liftM success
    obtain ⟨before, loaded, finished⟩ :=
      Disk.eq_ok_of_unchanged (loadBefore_unchanged config) success
    exact ⟨before, finish_succeeded apart (.refl _ fs) loaded finished⟩

theorem reconcileArtifacts_of_input_error {error : Error} (host : Host)
    (failed : config.validate = .error error ∨
      (∃ fanIn, config.validate = .ok fanIn) ∧
        (loadBefore config).perform fs = (.error error, after)) :
    (reconcileArtifacts host config).perform fs = (.error error, fs) := by
  rcases failed with invalid | ⟨⟨fanIn, valid⟩, unloaded⟩
  · exact Disk.perform_bind_error (by rw [invalid, Disk.perform_liftM])
  · rw [← (loadBefore_unchanged config).of_perform unloaded] at unloaded
    rw [reconcileArtifacts, valid, Disk.perform_bind_ok (Disk.perform_liftM _ _)]
    exact Disk.perform_bind_error unloaded

/-- The output of a transition is all or nothing, with the solver of this library, with any solver
that changes no files but its own, and with the artifacts that a solver has left.  A failure before
the solver is asked is the same with every solver, and changes nothing at all. -/
theorem output_all_or_nothing (host : Host) {config : Config} {fs : FileSystem}
    (apart : config.locations.Apart fs) :
    AllOrNothing host config fs (reconcileArtifacts host config) ∧
    AllOrNothing host config fs (runTransition host config .inProcess) ∧
    (∀ solver, Confined config solver fs →
      AllOrNothing host config fs (run host config solver)) ∧
    (∀ error after, (prepare config).perform fs = (.error error, after) →
      ∀ solver, (run host config solver).perform fs = (.error error, fs)) ∧
    ∀ error after, config.validate = .error error ∨
      (∃ fanIn, config.validate = .ok fanIn) ∧
        (loadBefore config).perform fs = (.error error, after) →
      (reconcileArtifacts host config).perform fs = (.error error, fs) :=
  ⟨reconcileArtifacts_allOrNothing host apart,
    run_allOrNothing host apart (confined_inProcess host config fs),
    fun _ confined => run_allOrNothing host apart confined,
    fun _ _ failed solver => run_of_prepare_error failed host solver,
    fun _ _ failed => reconcileArtifacts_of_input_error host failed⟩

/-- A small cluster whose stripes are merged in pairs. -/
def pairs : Config where
  code := ⟨1, 1, 2, 1⟩
  cluster := ⟨3, 2⟩
  approach := .balanced

def idle : Host := ⟨fun _ fs => (.error .notFound, fs), 1⟩

/-- The stripes of `pairs` with their artifacts in one directory. -/
def paired : Config :=
  { pairs with locations := { metadataDirectory := ⟨[]⟩ } }

/-- The files that a transition of `paired` begins with. -/
def stored : FileSystem where
  nodes := [
    ([Bytes.ofString "pre_placement"], .file (Bytes.ofString "0 1\n1 2\n") false),
    ([Bytes.ofString "pre_block_mapping"],
      .file (Bytes.ofString "0 0 0 data/a\n1 0 1 data/b\n") false)]
  workingDirectory := []

/-- A solver that writes the artifacts of `paired`, the groups first, and keeps no log. -/
def copyist : TransitionSolver where
  name := "copyist"
  solve request := do
    Disk.write request.stripeGroups (Bytes.ofString "0 1 0 0 1 2\n")
    Disk.write request.postPlacement (Bytes.ofString "0 1 2\n")
    return none

theorem confined_copyist (config : Config) (fs : FileSystem) : Confined config copyist fs := by
  have groups : config.locations.stripeGroupsPath ∈ config.locations.solverFiles := by
    simp [Locations.solverFiles]
  have placement : config.locations.postPlacementPath ∈ config.locations.solverFiles := by
    simp [Locations.solverFiles]
  have writes : (copyist.solve (request config)).Within
      (WritesOnly config.locations.solverFiles) :=
    Disk.within_bind (Disk.within_write groups _) fun _ =>
      Disk.within_bind (Disk.within_write placement _) fun _ => Disk.within_pure _
  exact (writes fs).toChangesOnly

/-- The solver of this library and one that is confined to its artifacts both succeed where the
inputs are there, and leave the table that is reconciled; without inputs, neither is asked. -/
theorem output_all_or_nothing_paired : paired.locations.Apart stored ∧
    Confined paired copyist stored ∧
    (∀ solver ∈ [Solver.inProcess.transitionSolver idle, copyist],
      ∃ written after before placement groups result text,
        (run idle paired solver).perform stored = (.ok written, after) ∧
        Recorded paired after before placement groups ∧
        reconcile idle.processors (input paired before placement groups) = .ok result ∧
        result.table.render = .ok text ∧
        after.content? (stored.target paired.locations.postBlockMappingPath)
          = some (Utf8.encode text)) ∧
    ∀ solver, (run idle paired solver).perform ⟨[], []⟩ = (.error (.io .notFound), ⟨[], []⟩) := by
  have apart : paired.locations.Apart stored := ⟨by decide, by decide⟩
  have confined := confined_copyist paired stored
  obtain ⟨-, inProcess, outside, -, -⟩ := output_all_or_nothing idle apart
  refine ⟨apart, confined, ?_, ?_⟩
  · intro solver member
    have allOrNothing : AllOrNothing idle paired stored (run idle paired solver) := by
      rcases List.mem_cons.mp member with rfl | rest
      · exact inProcess
      · exact List.mem_singleton.mp rest ▸ outside copyist confined
    have succeeds : ∀ solver ∈ [Solver.inProcess.transitionSolver idle, copyist],
        ((run idle paired solver).perform stored).1.isOk = true := by
      simp only [List.forall_mem_cons, List.not_mem_nil, false_implies, implies_true, and_true]
      decide +kernel
    obtain ⟨written, success⟩ := exists_eq_ok _ (succeeds solver member)
    have ran : (run idle paired solver).perform stored = (.ok written, _) := Prod.ext success rfl
    obtain ⟨before, placement, groups, result, text, recorded, reconciled, rendered, content⟩ :=
      allOrNothing.succeeded written _ ran
    exact ⟨written, _, before, placement, groups, result, text, ran, recorded, reconciled,
      rendered, content⟩
  · intro solver
    have vacantApart : paired.locations.Apart ⟨[], []⟩ := ⟨by decide, by decide⟩
    have missing : (prepare paired).perform ⟨[], []⟩ = (.error (.io .notFound), ⟨[], []⟩) := by
      decide +kernel
    obtain ⟨-, -, -, unasked, -⟩ := output_all_or_nothing idle vacantApart
    exact unasked _ _ missing solver

end Transition

end Restripe
