import Restripe.Proofs.Epoch.Placement
import Restripe.Proofs.FileSystem.Access
import Restripe.Proofs.Reconcile.Failure
import Restripe.Proofs.Transition.Output

/-!
# What an epoch leaves on disk

An epoch is on disk when a transition can begin with it: there is a file with a placement of its
stripes, and one with a mapping that records every data block and can be carried on.  Beginning an
epoch leaves both, whatever the seed draws.
-/

namespace Restripe

open FileSystem Outcome

/-! ## Writing artifacts -/

/-- The artifacts that are replaced in one step. -/
def Locations.savedPaths (locations : Locations) : List Path :=
  [locations.prePlacementPath, locations.preBlockMappingPath, locations.postPlacementPath,
    locations.postBlockMappingPath, locations.stripeGroupsPath]

/-- Write the log of a solver. -/
def Locations.writeLog (locations : Locations) (content : Bytes) : Disk Unit := do
  Disk.makeParents locations.solverLogPath
  Disk.write locations.solverLogPath content

theorem Locations.within_writeLog (locations : Locations) (content : Bytes) :
    (locations.writeLog content).Within (WritesOnly [locations.solverLogPath]) :=
  Disk.within_bind (Disk.within_makeParents _) fun _ => Disk.within_write (by simp) _

/-- How artifacts are written: the log in its place, and all others in one step. -/
inductive Locations.Writes (locations : Locations) : Disk Unit → Prop where
  | saved (path : Path) (isArtifact : path ∈ locations.savedPaths) (content : Bytes) :
      locations.Writes (writeAtomic path content)
  | logged (content : Bytes) : locations.Writes (locations.writeLog content)

namespace Transition

/-! ## Reading -/

theorem perform_loadPlacement {shape : PlacementShape} {path : Path} {placement : Placement}
    {fs : FileSystem} (read : fs.read path = .ok (Utf8.encode placement.render))
    (nonempty : 0 < shape.width.toNat) (admitted : ∀ nodes ∈ placement, shape.Admits nodes) :
    (Placement.load shape path).perform fs = (.ok placement, fs) :=
  loadWith_eq_ok.mpr ⟨rfl, _, read, Placement.parse_render nonempty admitted⟩

theorem perform_loadRows {config : Config} {path : Path} {width : UInt16} {expected : UInt32}
    {placement : Placement} {fs : FileSystem}
    (read : fs.read path = .ok (Utf8.encode placement.render)) (nonempty : 0 < width.toNat)
    (admitted : ∀ nodes ∈ placement,
      (⟨width, config.cluster.nodes⟩ : PlacementShape).Admits nodes)
    (length : placement.length = expected.toNat) :
    (loadRows config path width expected).perform fs = (.ok placement, fs) :=
  perform_loadRows_eq_ok.mpr ⟨rfl, length, perform_loadPlacement read nonempty admitted⟩

theorem perform_saveTable {table : ProvenanceTable} {text : Text} {path : Path}
    {fs after : FileSystem} (rendered : table.render = .ok text)
    (written : (writeAtomic path (Utf8.encode text)).perform fs = (.ok (), after)) :
    (table.save path).perform fs = (.ok (), after) :=
  (Disk.perform_bind_ok (Disk.perform_liftM_ok rendered fs)).trans written

/-! ## Epochs on disk -/

/-- An epoch on disk: a placement of its stripes, and a mapping that records every data block and
can be carried on. -/
structure OnDisk (placementPath mappingPath : Path) (shape : PlacementShape)
    (stripes dataBlocks : Nat) (fs : FileSystem) : Prop where
  placement : ∃ placement : Placement,
    fs.read placementPath = .ok (Utf8.encode placement.render) ∧ placement.length = stripes ∧
      ∀ nodes ∈ placement, shape.Admits nodes
  mapping : ∃ (table : ProvenanceTable) (text : Text),
    fs.read mappingPath = .ok (Utf8.encode text) ∧ table.render = .ok text ∧ table.Portable ∧
      ∀ key, key.stripe.toNat < stripes → key.block.toNat < dataBlocks →
        table.contains key = true

/-- The epoch before a transition is on disk. -/
def Begun (config : Config) (fs : FileSystem) : Prop :=
  OnDisk config.locations.prePlacementPath config.locations.preBlockMappingPath
    ⟨config.code.widthBefore, config.cluster.nodes⟩ config.cluster.stripes.toNat
    config.code.dataBefore.toNat fs

variable {config : Config} {fanIn : UInt16} {fs : FileSystem} {writes : Disk Unit → Prop}

theorem validate_eq_ok (valid : config.validate = .ok fanIn) :
    config.cluster.Admits config.code fanIn := by
  obtain ⟨value, validated, rest⟩ := bind_eq_ok.mp valid
  split at rest
  · cases rest
  · have same : value = fanIn := Except.ok.inj rest
    exact same ▸ Cluster.validate_eq_ok.mp validated

theorem addressable_of_drawn {placement : Placement}
    (isDrawn : placement.Drawn config.code config.cluster) : placement.Addressable where
  stripes := by
    rw [isDrawn.length_eq]
    exact Nat.le_of_lt config.cluster.stripes.toNat_lt
  blocks nodes member := by
    rw [(isDrawn.rows nodes member).length_eq]
    exact Nat.le_of_lt config.code.widthBefore.toNat_lt

/-- An epoch is on disk once its placement and its mapping are written, if the second leaves the
first alone. -/
theorem begun_of_written {placement : Placement} {table : ProvenanceTable} {text : Text}
    {middle begun : FileSystem} (admits : config.cluster.Admits config.code fanIn)
    (isDrawn : placement.Drawn config.code config.cluster)
    (begins : initialProvenance config.locations.dataDirectory placement = .ok table)
    (rendered : table.render = .ok text) (portable : table.Portable)
    (apart : ∀ other ∈ [config.locations.preBlockMappingPath,
      config.locations.preBlockMappingPath.temporary],
        middle.target other ≠ middle.target config.locations.prePlacementPath)
    (placementSaved : (placement.save config.locations.prePlacementPath).perform fs
      = (.ok (), middle))
    (mappingSaved : (writeAtomic config.locations.preBlockMappingPath
      (Utf8.encode text)).perform middle = (.ok (), begun)) : Begun config begun where
  placement := ⟨placement, read_of_writesOnly (read_of_writeAtomic placementSaved)
    ((within_writeAtomic _ _).of_perform mappingSaved) apart, isDrawn.length_eq, isDrawn.rows⟩
  mapping := by
    refine ⟨table, text, read_of_writeAtomic mappingSaved, rendered, portable, ?_⟩
    intro key stripe block
    refine (contains_initialProvenance begins).mpr ?_
    refine (Placement.exists_holder? fun nodes member =>
      (isDrawn.rows nodes member).length_eq).mpr ⟨isDrawn.length_eq.symm ▸ stripe, ?_⟩
    rw [admits.widthBefore_eq]
    exact Nat.lt_add_right _ block

/-- Beginning an epoch leaves it on disk. -/
theorem exists_beginEpoch (valid : config.validate = .ok fanIn) (writable : Writable writes fs)
    (included : ∀ action, config.locations.Writes action → writes action)
    (apart : ∀ other ∈ [config.locations.preBlockMappingPath,
      config.locations.preBlockMappingPath.temporary],
        fs.target other ≠ fs.target config.locations.prePlacementPath)
    (plain : config.locations.dataDirectory.IsPlain)
    (drawn : Placement.generate config.code config.cluster config.solver.seed
      ≠ .error (.fault .tooManyDraws)) :
    ∃ summary begun, (beginEpoch config).perform fs = (.ok summary, begun) ∧
      Writable writes begun ∧ begun.workingDirectory = fs.workingDirectory ∧
      Begun config begun := by
  have admits := validate_eq_ok valid
  obtain ⟨placement, generated, isDrawn⟩ :=
    (Placement.drawn_of_generate admits config.solver.seed).resolve_right drawn
  obtain ⟨table, begins⟩ :=
    exists_initialProvenance (addressable_of_drawn isDrawn) config.locations.dataDirectory
  have portable := portable_of_initialProvenance plain begins
  obtain ⟨text, rendered⟩ := portable.exists_render
  obtain ⟨middle, placementSaved, middleWritable⟩ := writable.exists_perform
    (included _ (.saved config.locations.prePlacementPath (by simp [Locations.savedPaths])
      (Utf8.encode placement.render)))
  obtain ⟨begun, mappingSaved, begunWritable⟩ := middleWritable.exists_perform
    (included _ (.saved config.locations.preBlockMappingPath (by simp [Locations.savedPaths])
      (Utf8.encode text)))
  obtain ⟨summary, success⟩ : ∃ summary,
      (beginEpoch config).perform fs = (.ok summary, begun) := by
    apply Exists.intro
    refine (Disk.perform_bind_ok (Disk.perform_liftM_ok valid fs)).trans ?_
    refine (Disk.perform_bind_ok (Disk.perform_liftM_ok generated fs)).trans ?_
    refine (Disk.perform_bind_ok (Disk.perform_liftM_ok begins fs)).trans ?_
    refine (Disk.perform_bind_ok placementSaved).trans ?_
    exact (Disk.perform_bind_ok (perform_saveTable rendered mappingSaved)).trans rfl
  have firstWrites := (within_writeAtomic _ _).of_perform placementSaved
  have secondWrites := (within_writeAtomic _ _).of_perform mappingSaved
  have targets : middle.target = fs.target := funext (target_congr firstWrites.workingDirectory)
  rw [← targets] at apart
  exact ⟨summary, begun, success, begunWritable,
    secondWrites.workingDirectory.trans firstWrites.workingDirectory,
    begun_of_written admits isDrawn begins rendered portable apart placementSaved mappingSaved⟩

end Transition

/-!
## What a transition reads and plans

What is read before the solver is asked decides all that the solver of this library does: every
placement that is read can be planned, and the plan and its log are written, one after the other.
-/

/-- Write a plan, the placement first and the log last. -/
def Locations.savePlan (locations : Locations) (groups : List StripeGroup) (log : Bytes) :
    Disk Unit := do
  (StripeGroup.placement groups).save locations.postPlacementPath
  StripeGroup.save groups locations.stripeGroupsPath
  locations.writeLog log

theorem Locations.savePlan_eq_ok {locations : Locations} {groups : List StripeGroup} {log : Bytes}
    {fs after : FileSystem} : (locations.savePlan groups log).perform fs = (.ok (), after) ↔
      ∃ first second,
        ((StripeGroup.placement groups).save locations.postPlacementPath).perform fs
          = (.ok (), first) ∧
        (StripeGroup.save groups locations.stripeGroupsPath).perform first = (.ok (), second) ∧
        (locations.writeLog log).perform second = (.ok (), after) := by
  constructor
  · intro saved
    obtain ⟨_, first, placementSaved, saved⟩ := Disk.bind_eq_ok.mp saved
    obtain ⟨_, second, groupsSaved, logged⟩ := Disk.bind_eq_ok.mp saved
    exact ⟨first, second, placementSaved, groupsSaved, logged⟩
  · intro ⟨first, second, placementSaved, groupsSaved, logged⟩
    refine (Disk.perform_bind_ok placementSaved).trans ?_
    exact (Disk.perform_bind_ok groupsSaved).trans logged

theorem Locations.within_savePlan (locations : Locations) (groups : List StripeGroup)
    (log : Bytes) : (locations.savePlan groups log).Within (WritesOnly locations.solverFiles) := by
  refine Disk.within_bind ((within_writeAtomic _ _).enlarge ?_) fun _ => ?_
  · simp [solverFiles]
  refine Disk.within_bind ((within_writeAtomic _ _).enlarge ?_) fun _ => ?_
  · simp [solverFiles]
  exact (locations.within_writeLog log).enlarge (by simp [solverFiles])

namespace Transition

variable {config : Config} {fanIn : UInt16} {fs after : FileSystem} {before : ProvenanceTable}
  {placement : Placement} {groups : List StripeGroup} {retained : Nat}

/-! ### Reading -/

/-- What is known before the solver is asked. -/
structure Prepared (config : Config) (fs : FileSystem) (fanIn : UInt16) (before : ProvenanceTable)
    (placement : Placement) : Prop where
  valid : config.validate = .ok fanIn
  placed : (Placement.load ⟨config.code.widthBefore, config.cluster.nodes⟩
    config.locations.prePlacementPath).perform fs = (.ok placement, fs)
  length_eq : placement.length = config.cluster.stripes.toNat
  loaded : (loadBefore config).perform fs = (.ok before, fs)

theorem prepare_eq_ok : (prepare config).perform fs = (.ok (fanIn, before), after) ↔
    after = fs ∧ ∃ placement, Prepared config fs fanIn before placement := by
  constructor
  · intro success
    obtain ⟨_, valid, success⟩ := Disk.eq_ok_of_liftM success
    obtain ⟨placement, rows, success⟩ :=
      Disk.eq_ok_of_unchanged (loadRows_unchanged _ _ _ _) success
    obtain ⟨_, loaded, success⟩ := Disk.eq_ok_of_unchanged (loadBefore_unchanged config) success
    obtain ⟨same, unchanged⟩ := Prod.mk.inj success
    obtain ⟨isFanIn, isBefore⟩ := Prod.mk.inj (Except.ok.inj same)
    obtain ⟨-, length, placed⟩ := perform_loadRows_eq_ok.mp rows
    exact ⟨unchanged.symm, placement, isFanIn ▸ valid, placed, length, isBefore ▸ loaded⟩
  · intro ⟨unchanged, placement, prepared⟩
    have rows := perform_loadRows_eq_ok.mpr ⟨rfl, prepared.length_eq, prepared.placed⟩
    refine (Disk.perform_bind_ok (Disk.perform_liftM_ok prepared.valid fs)).trans ?_
    refine (Disk.perform_bind_ok rows).trans ?_
    exact (Disk.perform_bind_ok prepared.loaded).trans (by rw [unchanged]; rfl)

/-! ### Planning -/

/-- A plan of the solver of this library, and how many blocks it reports to stay. -/
structure Planned (config : Config) (placement : Placement) (groups : List StripeGroup)
    (retained : Nat) : Prop where
  planned : planTransition config.code config.cluster.nodes config.approach placement = .ok groups
  counted : Plan.countRetained config.code placement (StripeGroup.placement groups) = .ok retained

def planLog (config : Config) (placement : Placement) (groups : List StripeGroup)
    (retained : Nat) : Bytes :=
  Bytes.ofString ((request config).planLog placement (StripeGroup.placement groups) retained)

namespace Prepared

variable (prepared : Prepared config fs fanIn before placement)

include prepared

theorem rows : ∀ nodes ∈ placement,
    (⟨config.code.widthBefore, config.cluster.nodes⟩ : PlacementShape).Admits nodes := by
  obtain ⟨-, bytes, -, read⟩ := loadWith_eq_ok.mp prepared.placed
  exact Placement.admits_of_parse read

theorem exists_plan : ∃ groups retained, Planned config placement groups retained ∧
    Plan.Covers config.code config.cluster fanIn groups := by
  have admits := validate_eq_ok prepared.valid
  obtain ⟨groups, planned, covers⟩ :=
    Plan.exists_planTransition admits prepared.length_eq prepared.rows config.approach
  obtain ⟨retained, counted⟩ := covers.exists_countRetained admits.toWhole prepared.length_eq
  exact ⟨groups, retained, ⟨planned, counted⟩, covers⟩

theorem covers (plans : Planned config placement groups retained) :
    Plan.Covers config.code config.cluster fanIn groups := by
  obtain ⟨other, otherRetained, otherPlans, covers⟩ := prepared.exists_plan
  exact Except.ok.inj (otherPlans.planned.symm.trans plans.planned) ▸ covers

theorem perform_solve (plans : Planned config placement groups retained) :
    (request config).solveInProcess.perform fs =
      (config.locations.savePlan groups (planLog config placement groups retained)).perform fs := by
  refine (Disk.perform_bind_ok prepared.placed).trans ?_
  refine (Disk.perform_bind_ok (Disk.perform_liftM_ok plans.planned fs)).trans ?_
  refine Disk.perform_bind_congr fun _ first => Disk.perform_bind_congr fun _ second => ?_
  exact Disk.perform_bind_ok (Disk.perform_liftM_ok plans.counted second)

theorem perform_runTransition (host : Host) (plans : Planned config placement groups retained)
    (saved : (config.locations.savePlan groups
      (planLog config placement groups retained)).perform fs = (.ok (), after)) :
    (runTransition host config .inProcess).perform fs =
      (finish host config fanIn before (some Solver.inProcess.name)
        (some config.locations.solverLogPath)).perform after := by
  have solved := (prepared.perform_solve plans).trans saved
  refine (Disk.perform_bind_ok (prepare_eq_ok.mpr ⟨rfl, _, prepared⟩)).trans ?_
  exact Disk.perform_bind_ok ((Disk.perform_bind_ok solved).trans rfl)

end Prepared

/-- A transition that succeeds has read, planned, written its plan, and reconciled it. -/
theorem steps_of_runTransition {host : Host} {written : Report}
    (success : (runTransition host config .inProcess).perform fs = (.ok written, after)) :
    ∃ fanIn before placement groups retained middle,
      Prepared config fs fanIn before placement ∧ Planned config placement groups retained ∧
      (config.locations.savePlan groups (planLog config placement groups retained)).perform fs
        = (.ok (), middle) ∧
      (finish host config fanIn before (some Solver.inProcess.name)
        (some config.locations.solverLogPath)).perform middle = (.ok written, after) := by
  obtain ⟨⟨fanIn, before⟩, prepares, success⟩ :=
    Disk.eq_ok_of_unchanged (prepare_unchanged config) success
  obtain ⟨-, placement, prepared⟩ := prepare_eq_ok.mp prepares
  obtain ⟨groups, retained, plans, -⟩ := prepared.exists_plan
  obtain ⟨log, middle, solved, finished⟩ := Disk.bind_eq_ok.mp success
  obtain ⟨_, last, solves, logged⟩ := Disk.bind_eq_ok.mp solved
  obtain ⟨isLog, same⟩ := Prod.mk.inj logged
  rw [Solver.solve, same, prepared.perform_solve plans] at solves
  rw [← Except.ok.inj isLog] at finished
  exact ⟨fanIn, before, placement, groups, retained, middle, prepared, plans, solves, finished⟩

end Transition

end Restripe
