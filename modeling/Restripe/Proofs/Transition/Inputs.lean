import Restripe.Proofs.Solver.Stages
import Restripe.Proofs.Transition.Again

/-!
# The inputs of a transition

A transition reads the placement and the block mapping before it, and writes the artifacts after it.
Nothing keeps a configuration from naming one file for both.  An input that is none of the files
that are written is left as it is, whether the transition succeeds or fails.
-/

namespace Restripe

open FileSystem Outcome

/-- The file that an outside program finds at a path it is given: the path as it is shown to the
program, from the directory that the program runs in. -/
def ExternalSolver.given (solver : ExternalSolver) (path : Path) : Path :=
  let shown := Path.ofString path.display
  match solver.workingDirectory with
  | none => shown
  | some directory => directory.join shown

namespace Locations

/-- What is read of the epoch before a transition. -/
def inputPaths (locations : Locations) : List Path :=
  [locations.prePlacementPath, locations.preBlockMappingPath]

/-- The new block mapping, with the temporary file beside. -/
def mappingFiles (locations : Locations) : List Path :=
  [locations.postBlockMappingPath, locations.postBlockMappingPath.temporary]

/-- The artifacts that an outside program is given to write. -/
def givenFiles (locations : Locations) (solver : ExternalSolver) : List Path :=
  [solver.given locations.postPlacementPath, solver.given locations.stripeGroupsPath]

/-- The files that change when an outside solver is asked: artifacts of an earlier run are taken
away, the program writes those that it is given, and the log is kept. -/
def externalFiles (locations : Locations) (solver : ExternalSolver) : List Path :=
  [locations.postPlacementPath, locations.stripeGroupsPath, locations.solverLogPath]
    ++ locations.givenFiles solver

end Locations

namespace Transition

variable {host : Host} {config : Config} {solver : ExternalSolver} {paths : List Path}

/-! ## What is written -/

theorem within_removeIfPresent {path : Path} (member : path ∈ paths) :
    (Disk.removeIfPresent path).Within (WritesOnly paths) := by
  refine Disk.within_tryCatch (Disk.within_remove member) fun cause => ?_
  split
  · exact Disk.within_pure _
  · exact Disk.within_throw _

theorem perform_start (host : Host) (solver : ExternalSolver) (request : SolveRequest)
    (fs : FileSystem) : ((solver.start host request).perform fs).2
      = (host.run (solver.child request) fs).2 := by
  rw [ExternalSolver.perform_start]
  rcases host.run (solver.child request) fs with ⟨fault | outcome, left⟩ <;> rfl

theorem checkOutputs_unchanged (request : SolveRequest) : request.checkOutputs.Within Eq := by
  intro fs
  rw [perform_checkOutputs]

/-- Asking an outside solver changes no files but those that are taken away, the log, and what the
program writes. -/
theorem solveExternal_within
    (writes : ∀ fs, ChangesOnly (config.locations.givenFiles solver) fs
      (host.run (solver.child (request config)) fs).2) :
    (solver.solve host (request config)).Within
      (ChangesOnly (config.locations.externalFiles solver)) := by
  have ours : ∀ {α : Type} {action : Disk α},
      action.Within (WritesOnly (config.locations.externalFiles solver)) →
        action.Within (ChangesOnly (config.locations.externalFiles solver)) :=
    fun within => within.mono fun _ _ written => written.toChangesOnly
  have started : (solver.start host (request config)).Within
      (ChangesOnly (config.locations.externalFiles solver)) := by
    intro fs
    rw [perform_start]
    exact (writes fs).mono (List.subset_append_right _ _)
  unfold ExternalSolver.solve
  refine Disk.within_bind (ours (within_removeIfPresent ?_)) fun _ => ?_
  · simp [request, Locations.externalFiles]
  refine Disk.within_bind (ours (within_removeIfPresent ?_)) fun _ => ?_
  · simp [request, Locations.externalFiles]
  refine Disk.within_bind started fun outcome => ?_
  refine Disk.within_bind (ours (Disk.within_makeParents _)) fun _ => ?_
  refine Disk.within_bind (ours (Disk.within_write ?_ _)) fun _ => ?_
  · simp [Locations.externalFiles]
  have checked : (request config).checkOutputs.Within
      (ChangesOnly (config.locations.externalFiles solver)) :=
    Disk.within_of_unchanged fun fs => (checkOutputs_unchanged _ fs).symm
  split
  · exact checked
  · exact Disk.within_bind (Disk.within_throw _) fun _ => checked

theorem finish_within (host : Host) (config : Config) (fanIn : UInt16) (before : ProvenanceTable)
    (name : Option String) (log : Option Path) :
    (finish host config fanIn before name log).Within
      (WritesOnly config.locations.mappingFiles) := by
  have reads : ∀ {α : Type} {action : Disk α}, action.Within Eq →
      action.Within (WritesOnly config.locations.mappingFiles) :=
    fun unchanged => Disk.within_of_unchanged fun fs => (unchanged fs).symm
  refine Disk.within_bind (Disk.within_liftM _) fun stripes => ?_
  refine Disk.within_bind (reads (loadRows_unchanged _ _ _ _)) fun placement => ?_
  refine Disk.within_bind (Disk.within_liftM _) fun shape => ?_
  refine Disk.within_bind (reads (loadWith_unchanged _ _)) fun groups => ?_
  refine Disk.within_bind (Disk.within_liftM _) fun result => ?_
  refine Disk.within_bind ?_ fun _ => Disk.within_pure _
  exact Disk.within_bind (Disk.within_liftM _) fun text => within_writeAtomic _ _

theorem run_within (host : Host) {solver : TransitionSolver}
    (solves : (solver.solve (request config)).Within (ChangesOnly paths)) :
    (run host config solver).Within (ChangesOnly (paths ++ config.locations.mappingFiles)) := by
  refine Disk.within_bind ?_ fun prepared => ?_
  · exact Disk.within_of_unchanged fun fs => (prepare_unchanged config fs).symm
  refine Disk.within_bind ?_ fun log => ?_
  · exact solves.mono fun _ _ changes => changes.mono (List.subset_append_left _ _)
  · exact (finish_within host config _ _ _ _).mono fun _ _ writes =>
      writes.toChangesOnly.mono (List.subset_append_right _ _)

theorem reconcileArtifacts_within (host : Host) (config : Config) :
    (reconcileArtifacts host config).Within (ChangesOnly config.locations.mappingFiles) := by
  refine Disk.within_bind (Disk.within_liftM _) fun fanIn => ?_
  refine Disk.within_bind ?_ fun before => ?_
  · exact Disk.within_of_unchanged fun fs => (loadBefore_unchanged config fs).symm
  · exact (finish_within host config _ _ _ _).mono fun _ _ writes => writes.toChangesOnly

theorem runTransition_inProcess_within (host : Host) (config : Config) :
    (runTransition host config .inProcess).Within
      (ChangesOnly (config.locations.planFiles ++ config.locations.mappingFiles)) := by
  refine run_within host (Disk.within_bind ?_ fun _ => Disk.within_pure _)
  exact (solveInProcess_within config).mono fun _ _ writes => writes.toChangesOnly

theorem runTransition_external_within
    (writes : ∀ fs, ChangesOnly (config.locations.givenFiles solver) fs
      (host.run (solver.child (request config)) fs).2) :
    (runTransition host config (.external solver)).Within
      (ChangesOnly (config.locations.externalFiles solver ++ config.locations.mappingFiles)) :=
  run_within host (Disk.within_bind (solveExternal_within writes) fun _ => Disk.within_pure _)

/-! ## What is left as it is -/

/-- The file at a path holds the same after as before, or is absent both times. -/
def Keeps (path : Path) (fs after : FileSystem) : Prop :=
  after.content? (fs.target path) = fs.content? (fs.target path)

/-- None of the files is the one at the path. -/
def Spares (fs : FileSystem) (files : List Path) (path : Path) : Prop :=
  ∀ file ∈ files, fs.target file ≠ fs.target path

theorem keeps_of_within {α : Type} {run : Disk α} (within : run.Within (ChangesOnly paths))
    {fs : FileSystem} {path : Path} (spares : Spares fs paths path) :
    Keeps path fs (run.perform fs).2 :=
  (within fs).contents (fs.target path) spares

/-- A transition keeps each of its inputs that is none of the files that it writes, whether it
succeeds or fails: with the artifacts that a solver has left, with the solver of this library, and
with an outside program that writes only the artifacts it is given. -/
theorem inputs_kept (host : Host) (config : Config) (fs : FileSystem) :
    ∀ path ∈ config.locations.inputPaths,
      (Spares fs config.locations.mappingFiles path →
        Keeps path fs ((reconcileArtifacts host config).perform fs).2) ∧
      (Spares fs (config.locations.planFiles ++ config.locations.mappingFiles) path →
        Keeps path fs ((runTransition host config .inProcess).perform fs).2) ∧
      ∀ solver, (∀ start, ChangesOnly (config.locations.givenFiles solver) start
          (host.run (solver.child (request config)) start).2) →
        Spares fs (config.locations.externalFiles solver ++ config.locations.mappingFiles) path →
          Keeps path fs ((runTransition host config (.external solver)).perform fs).2 := by
  intro path _
  exact ⟨keeps_of_within (reconcileArtifacts_within host config),
    keeps_of_within (runTransition_inProcess_within host config),
    fun _ writes => keeps_of_within (runTransition_external_within writes)⟩

/-- A host whose programs write the artifacts of `paired`. -/
def scribe : Host where
  run _ fs :=
    let write : Disk Unit := do
      Disk.write (.ofString "post_placement") (Bytes.ofString "0 1 2\n")
      Disk.write (.ofString "sg_meta") (Bytes.ofString "0 1 0 0 1 2\n")
    (.ok ⟨[], [], .code 0⟩, (write.perform fs).2)
  processors := 1

/-- A solver that runs where its caller does. -/
def hired : ExternalSolver := ⟨.ofString "solver", [], none⟩

theorem inputs_kept_paired :
    (∃ report, ((runTransition scribe paired (.external hired)).perform stored).1 = .ok report) ∧
    ∀ path ∈ paired.locations.inputPaths,
      Keeps path stored ((runTransition scribe paired .inProcess).perform stored).2 ∧
      Keeps path stored ((runTransition scribe paired (.external hired)).perform stored).2 := by
  have writes : ∀ start, ChangesOnly (paired.locations.givenFiles hired) start
      (scribe.run (hired.child (request paired)) start).2 := by
    intro start
    have placement : Path.ofString "post_placement" ∈ paired.locations.givenFiles hired := by
      decide +kernel
    have groups : Path.ofString "sg_meta" ∈ paired.locations.givenFiles hired := by
      decide +kernel
    exact (Disk.within_bind (Disk.within_write placement _)
      (fun _ => Disk.within_write groups _) start).toChangesOnly
  have spares : ∀ path ∈ paired.locations.inputPaths,
      Spares stored (paired.locations.planFiles ++ paired.locations.mappingFiles) path ∧
      Spares stored (paired.locations.externalFiles hired ++ paired.locations.mappingFiles)
        path := by
    unfold Spares
    decide +kernel
  refine ⟨exists_eq_ok _ (by decide +kernel), fun path isInput => ?_⟩
  obtain ⟨-, inProcess, external⟩ := inputs_kept scribe paired stored path isInput
  exact ⟨inProcess (spares path isInput).1, external hired writes (spares path isInput).2⟩

/-- Names for the artifacts that are the name of an input, or the name that has an input for its
temporary file. -/
def colliding : List Locations :=
  [{ metadataDirectory := ⟨[]⟩, postPlacement := .ofString "pre_placement" },
    { metadataDirectory := ⟨[]⟩, stripeGroups := .ofString "pre_placement" },
    { metadataDirectory := ⟨[]⟩, solverLog := .ofString "pre_placement" },
    { metadataDirectory := ⟨[]⟩, postBlockMapping := .ofString "pre_block_mapping" },
    { metadataDirectory := ⟨[]⟩
      preBlockMapping := .ofString "mapping.tmp"
      postBlockMapping := .ofString "mapping" }]

/-- The files that a transition of the stripes of `paired` begins with, under any names. -/
def storedAt (locations : Locations) : FileSystem where
  nodes := [
    (vacant.target locations.prePlacementPath, .file (Bytes.ofString "0 1\n1 2\n") false),
    (vacant.target locations.preBlockMappingPath,
      .file (Bytes.ofString "0 0 0 data/a\n1 0 1 data/b\n") false)]
  workingDirectory := []

/-- The configurations are valid, and in each a transition loses an input to an artifact. -/
theorem input_lost_of_colliding :
    (∀ locations ∈ colliding, ∃ fanIn, Config.validate { paired with locations } = .ok fanIn) ∧
    ∀ locations ∈ colliding, ∃ path ∈ locations.inputPaths, ¬Keeps path (storedAt locations)
      ((runTransition idle { paired with locations } .inProcess).perform
        (storedAt locations)).2 := by
  have valid : paired.validate = .ok 2 := rfl
  refine ⟨fun locations _ => ⟨2, valid⟩, ?_⟩
  unfold Keeps
  decide +kernel

end Transition

end Restripe
