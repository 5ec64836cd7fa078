import Restripe.Proofs.Transition.Prepare

/-!
# A transition that succeeds

A transition that begins with an epoch on disk runs to its end, as long as the artifacts can be
written and none of them gets in the way of another.  Each part of it hands over to the next: what
was read is planned, what is planned is read back, and what is read back is reconciled.  What is
left is an epoch on disk again.
-/

namespace Restripe.Transition

open FileSystem Outcome

variable {config : Config} {fanIn : UInt16} {fs middle after : FileSystem}
  {writes : Disk Unit → Prop} {before : ProvenanceTable} {groups : List StripeGroup}

/-! ## What is read before -/

/-- What is known of the old blocks where the transition needs it. -/
def Known (config : Config) (before : ProvenanceTable) : Prop :=
  config.managed = false → before.Portable ∧
    ∀ key, key.stripe.toNat < config.cluster.stripes.toNat →
      key.block.toNat < config.code.dataBefore.toNat → before.contains key = true

theorem exists_loadBefore (onDisk : Begun config fs) :
    ∃ before, (loadBefore config).perform fs = (.ok before, fs) ∧ Known config before := by
  obtain ⟨table, text, read, rendered, portable, recorded⟩ := onDisk.mapping
  unfold loadBefore
  cases managed : config.managed with
  | true =>
      refine ⟨.empty, rfl, fun unmanaged => ?_⟩
      rw [managed] at unmanaged
      cases unmanaged
  | false =>
      exact ⟨table, loadWith_eq_ok.mpr ⟨rfl, _, read, ProvenanceTable.parse_of_render rendered⟩,
        fun _ => ⟨portable, recorded⟩⟩

theorem width_pos (admits : config.cluster.Admits config.code fanIn) :
    0 < config.code.widthBefore.toNat ∧ 0 < config.code.widthAfter.toNat := by
  rw [admits.widthBefore_eq, admits.widthAfter_eq]
  exact ⟨Nat.add_pos_left admits.dataBefore_pos _, Nat.add_pos_left admits.dataAfter_pos _⟩

theorem exists_prepared (valid : config.validate = .ok fanIn) (onDisk : Begun config fs) :
    ∃ before placement, Prepared config fs fanIn before placement ∧ Known config before := by
  obtain ⟨placement, read, length, rows⟩ := onDisk.placement
  obtain ⟨before, loaded, known⟩ := exists_loadBefore onDisk
  have nonempty := (width_pos (validate_eq_ok valid)).1
  exact ⟨before, placement, ⟨valid, perform_loadPlacement read nonempty rows, length, loaded⟩,
    known⟩

/-! ## What is solved -/

/-- The artifacts of the solver are on disk. -/
structure Solved (config : Config) (fs : FileSystem) (groups : List StripeGroup) : Prop where
  placement : fs.read config.locations.postPlacementPath
    = .ok (Utf8.encode (Placement.render (StripeGroup.placement groups)))
  groups : fs.read config.locations.stripeGroupsPath = .ok (Utf8.encode (StripeGroup.render groups))

section Solved

variable (solved : Solved config fs groups)

include solved

theorem Solved.of_writesOnly {paths : List Path} (written : WritesOnly paths fs after)
    (apartPlacement : ∀ other ∈ paths,
      fs.target other ≠ fs.target config.locations.postPlacementPath)
    (apartGroups : ∀ other ∈ paths,
      fs.target other ≠ fs.target config.locations.stripeGroupsPath) :
    Solved config after groups :=
  ⟨read_of_writesOnly solved.placement written apartPlacement,
    read_of_writesOnly solved.groups written apartGroups⟩

variable (covers : Plan.Covers config.code config.cluster fanIn groups)

include covers

theorem Solved.load_placement (valid : config.validate = .ok fanIn) :
    (Placement.load ⟨config.code.widthAfter, config.cluster.nodes⟩
      config.locations.postPlacementPath).perform fs = (.ok (StripeGroup.placement groups), fs) :=
  perform_loadPlacement solved.placement (width_pos (validate_eq_ok valid)).2
    covers.admits_placement

theorem Solved.load_groups :
    (StripeGroup.load ⟨fanIn, config.code.widthAfter, config.cluster.nodes⟩
      config.locations.stripeGroupsPath).perform fs = (.ok groups, fs) :=
  loadWith_eq_ok.mpr ⟨rfl, _, solved.groups, StripeGroup.parse_render covers.admitted⟩

end Solved

theorem solved_of_savePlan {log : Bytes} (apart : config.locations.Apart fs)
    (saved : (config.locations.savePlan groups log).perform fs = (.ok (), after)) :
    Solved config after groups := by
  obtain ⟨first, second, placementSaved, groupsSaved, logged⟩ :=
    Locations.savePlan_eq_ok.mp saved
  have placementWrites := (within_save_placement _ _).of_perform placementSaved
  have groupsWrites := (within_save_groups _ _).of_perform groupsSaved
  have logWrites := (config.locations.within_writeLog log).of_perform logged
  have apartFirst := apart.of_workingDirectory placementWrites.workingDirectory
  have apartSecond := apartFirst.of_workingDirectory groupsWrites.workingDirectory
  have solved : Solved config second groups :=
    ⟨read_of_writesOnly (read_of_writeAtomic placementSaved) groupsWrites
      (apartFirst.saved_ne 4 2 (by decide) rfl rfl), read_of_writeAtomic groupsSaved⟩
  refine solved.of_writesOnly logWrites ?_ ?_ <;>
    refine List.forall_mem_singleton.mpr ?_
  · exact apartSecond.saved_ne 5 2 (by decide) rfl rfl _ List.mem_cons_self
  · exact apartSecond.saved_ne 5 4 (by decide) rfl rfl _ List.mem_cons_self

/-- The plan of what was read can be written, and is read back. -/
theorem exists_savePlan {placement : Placement}
    (prepared : Prepared config fs fanIn before placement) (apart : config.locations.Apart fs)
    (writable : Writable writes fs)
    (included : ∀ action, config.locations.Writes action → writes action) :
    ∃ groups retained middle, Planned config placement groups retained ∧
      Plan.Covers config.code config.cluster fanIn groups ∧
      (config.locations.savePlan groups (planLog config placement groups retained)).perform fs
        = (.ok (), middle) ∧
      Solved config middle groups ∧ Writable writes middle := by
  obtain ⟨groups, retained, plans, covers⟩ := prepared.exists_plan
  obtain ⟨first, placementSaved, firstWritable⟩ := writable.exists_perform
    (included _ (.saved config.locations.postPlacementPath (by simp [Locations.savedPaths])
      (Utf8.encode (Placement.render (StripeGroup.placement groups)))))
  obtain ⟨second, groupsSaved, secondWritable⟩ := firstWritable.exists_perform
    (included _ (.saved config.locations.stripeGroupsPath (by simp [Locations.savedPaths])
      (Utf8.encode (StripeGroup.render groups))))
  obtain ⟨third, logged, thirdWritable⟩ := secondWritable.exists_perform
    (included _ (.logged (planLog config placement groups retained)))
  have saved := Locations.savePlan_eq_ok.mpr ⟨first, second, placementSaved, groupsSaved, logged⟩
  exact ⟨groups, retained, third, plans, covers, saved, solved_of_savePlan apart saved,
    thirdWritable⟩

/-! ## What is reconciled -/

/-- A plan is reconciled with what is known of the old blocks. -/
theorem exists_reconcile_of_plan (host : Host) (valid : config.validate = .ok fanIn)
    (covers : Plan.Covers config.code config.cluster fanIn groups) (known : Known config before) :
    ∃ result, reconcile host.processors
      (input config before (StripeGroup.placement groups) groups) = .ok result := by
  have covered : Plan.Covers (input config before (StripeGroup.placement groups) groups).code
      (input config before (StripeGroup.placement groups) groups).cluster fanIn
      (input config before (StripeGroup.placement groups) groups).groups := covers
  refine exists_reconcile (covered.checked (validate_eq_ok valid) rfl) host.processors ?_
  intro unmanaged source isOld
  obtain ⟨portable, recorded⟩ := known unmanaged
  obtain ⟨entry, member, same⟩ :=
    ProvenanceTable.contains_eq_true.mp (recorded source isOld.1 isOld.2)
  refine ⟨entry, ProvenanceTable.find?_eq_some.mpr ⟨member, same⟩, fun path stored => ?_⟩
  obtain ⟨name, named, _⟩ := (portable entry member path stored).named
  exact ⟨_, named⟩

/-- What a transition leaves: the artifacts hold what is reconciled, and the new mapping is loaded
as the reconciled table, which has an entry for every block of the new stripes on a node of the
cluster. -/
def Reconciles (host : Host) (config : Config) (fs : FileSystem) : Prop :=
  ∃ before placement groups result fanIn stripes,
    Recorded config fs before placement groups ∧
    reconcile host.processors (input config before placement groups) = .ok result ∧
    (ProvenanceTable.load config.locations.postBlockMappingPath).perform fs
      = (.ok result.table, fs) ∧
    config.code.fanIn = .ok fanIn ∧ config.cluster.stripesAfter fanIn = .ok stripes ∧
    result.table.size = stripes.toNat *
      (config.code.dataAfter.toNat + config.code.parityAfter.toNat) ∧
    ∀ entry ∈ result.table.entries, entry.node < config.cluster.nodes

/-- The epoch after a transition is on disk. -/
def Ended (config : Config) (fs : FileSystem) : Prop :=
  ∃ fanIn stripes, config.code.fanIn = .ok fanIn ∧
    config.cluster.stripesAfter fanIn = .ok stripes ∧
    OnDisk config.locations.postPlacementPath config.locations.postBlockMappingPath
      ⟨config.code.widthAfter, config.cluster.nodes⟩ stripes.toNat config.code.dataAfter.toNat fs

/-- Reconcile a plan and write the new block mapping. -/
def conclude (host : Host) (config : Config) (fanIn : UInt16) (before : ProvenanceTable)
    (groups : List StripeGroup) (solver : Option String) (log : Option Path) : Disk Report := do
  let result ← reconcile host.processors
    (input config before (StripeGroup.placement groups) groups)
  result.table.save config.locations.postBlockMappingPath
  return report config fanIn solver log groups.length result.stats

/-- What the solver has left is read back, and reconciled. -/
theorem perform_finish (host : Host) (valid : config.validate = .ok fanIn)
    (covers : Plan.Covers config.code config.cluster fanIn groups)
    (solved : Solved config fs groups) (solver : Option String) (log : Option Path) :
    (finish host config fanIn before solver log).perform fs
      = (conclude host config fanIn before groups solver log).perform fs := by
  have admits := validate_eq_ok valid
  obtain ⟨stripes, counted, stripes_eq⟩ := admits.stripesAfter_eq
  have shape := StripeGroupShape.ofCode_eq_ok admits.toWhole config.cluster.nodes
  have rowsLoaded := perform_loadRows solved.placement (width_pos admits).2
    covers.admits_placement (covers.length_placement.trans stripes_eq.symm)
  refine (Disk.perform_bind_ok (Disk.perform_liftM_ok counted fs)).trans ?_
  refine (Disk.perform_bind_ok rowsLoaded).trans ?_
  refine (Disk.perform_bind_ok (Disk.perform_liftM_ok shape fs)).trans ?_
  exact Disk.perform_bind_ok (solved.load_groups covers)

theorem conclude_eq_ok {host : Host} {solver : Option String} {log : Option Path}
    {written : Report} :
    (conclude host config fanIn before groups solver log).perform fs = (.ok written, after) ↔
      ∃ result text,
        reconcile host.processors (input config before (StripeGroup.placement groups) groups)
          = .ok result ∧
        result.table.render = .ok text ∧
        (writeAtomic config.locations.postBlockMappingPath (Utf8.encode text)).perform fs
          = (.ok (), after) ∧
        written = report config fanIn solver log groups.length result.stats := by
  constructor
  · intro concluded
    obtain ⟨result, reconciled, concluded⟩ := Disk.eq_ok_of_liftM concluded
    obtain ⟨_, middle, saved, reported⟩ := Disk.bind_eq_ok.mp concluded
    obtain ⟨text, rendered, replaced⟩ := Disk.eq_ok_of_liftM saved
    obtain ⟨isReport, same⟩ := Prod.mk.inj reported
    exact ⟨result, text, reconciled, rendered, same ▸ replaced, (Except.ok.inj isReport).symm⟩
  · intro ⟨result, text, reconciled, rendered, replaced, isReport⟩
    refine (Disk.perform_bind_ok (Disk.perform_liftM_ok reconciled fs)).trans ?_
    exact (Disk.perform_bind_ok (perform_saveTable rendered replaced)).trans (by rw [isReport]; rfl)

/-- What the solver has left is reconciled and written. -/
theorem exists_finish (host : Host) (valid : config.validate = .ok fanIn)
    (writable : Writable writes middle)
    (included : ∀ action, config.locations.Writes action → writes action)
    (plain : config.locations.dataDirectory.IsPlain)
    (covers : Plan.Covers config.code config.cluster fanIn groups)
    (solved : Solved config middle groups) (known : Known config before) (solver : Option String)
    (log : Option Path) :
    ∃ report after result text,
      (finish host config fanIn before solver log).perform middle = (.ok report, after) ∧
      reconcile host.processors (input config before (StripeGroup.placement groups) groups)
        = .ok result ∧
      result.table.Portable ∧ result.table.render = .ok text ∧
      (writeAtomic config.locations.postBlockMappingPath (Utf8.encode text)).perform middle
        = (.ok (), after) ∧ Writable writes after := by
  obtain ⟨result, reconciled⟩ := exists_reconcile_of_plan host valid covers known
  have portable : result.table.Portable :=
    portable_of_reconcile (fun _ => plain) (fun unmanaged => (known unmanaged).1.namesPlain)
      reconciled
  obtain ⟨text, rendered⟩ := portable.exists_render
  obtain ⟨after, saved, afterWritable⟩ := writable.exists_perform
    (included _ (.saved config.locations.postBlockMappingPath (by simp [Locations.savedPaths])
      (Utf8.encode text)))
  refine ⟨report config fanIn solver log groups.length result.stats, after, result, text, ?_,
    reconciled, portable, rendered, saved, afterWritable⟩
  refine (perform_finish host valid covers solved solver log).trans ?_
  exact conclude_eq_ok.mpr ⟨result, text, reconciled, rendered, saved, rfl⟩

/-! ## The whole transition -/

section Left

variable {result : Reconciled} {text : Text} {host : Host} (valid : config.validate = .ok fanIn)
  (covers : Plan.Covers config.code config.cluster fanIn groups)
  (reconciled : reconcile host.processors
    (input config before (StripeGroup.placement groups) groups) = .ok result)
  (read : fs.read config.locations.postBlockMappingPath = .ok (Utf8.encode text))
  (rendered : result.table.render = .ok text)

include valid covers reconciled read rendered

theorem reconciles_of_recorded
    (recorded : Recorded config fs before (StripeGroup.placement groups) groups) :
    Reconciles host config fs := by
  have admits := validate_eq_ok valid
  obtain ⟨stripes, counted, stripes_eq⟩ := admits.stripesAfter_eq
  have loaded : (ProvenanceTable.load config.locations.postBlockMappingPath).perform fs
      = (.ok result.table, fs) :=
    loadWith_eq_ok.mpr ⟨rfl, _, read, ProvenanceTable.parse_of_render rendered⟩
  refine ⟨before, _, groups, result, fanIn, stripes, recorded, reconciled, loaded,
    Code.fanIn_eq_ok.mpr admits.toWhole, counted, ?_, fun entry member => ?_⟩
  · rw [stripes_eq, admits.fanIn_eq]
    exact size_of_reconcile reconciled
  · obtain ⟨nodes, inPlacement, inRow⟩ := node_mem_of_reconcile reconciled member
    exact (covers.admits_placement nodes inPlacement).bounded entry.node inRow

/-- What is reconciled is the epoch after the transition. -/
theorem ended_of_reconciled (solved : Solved config fs groups) (portable : result.table.Portable) :
    Ended config fs := by
  have admits := validate_eq_ok valid
  obtain ⟨stripes, counted, stripes_eq⟩ := admits.stripesAfter_eq
  have count := covers.length_placement.trans stripes_eq.symm
  refine ⟨fanIn, stripes, Code.fanIn_eq_ok.mpr admits.toWhole, counted,
    ⟨_, solved.placement, count, covers.admits_placement⟩,
    result.table, text, read, rendered, portable, fun key stripe block => ?_⟩
  rw [stripes_eq, admits.fanIn_eq] at stripe
  rw [contains_of_reconcile reconciled]
  exact ⟨stripe, Nat.lt_add_right _ block⟩

end Left

/-- A transition that begins with an epoch on disk succeeds and leaves the next one. -/
theorem exists_runTransition (host : Host) (valid : config.validate = .ok fanIn)
    (apart : config.locations.Apart fs) (writable : Writable writes fs)
    (included : ∀ action, config.locations.Writes action → writes action)
    (plain : config.locations.dataDirectory.IsPlain) (onDisk : Begun config fs) :
    ∃ report after, (runTransition host config .inProcess).perform fs = (.ok report, after) ∧
      Reconciles host config after ∧ Ended config after ∧ Writable writes after ∧
      after.workingDirectory = fs.workingDirectory := by
  obtain ⟨before, placement, prepared, known⟩ := exists_prepared valid onDisk
  obtain ⟨groups, retained, middle, plans, covers, planSaved, solved, middleWritable⟩ :=
    exists_savePlan prepared apart writable included
  obtain ⟨written, after, result, text, finished, reconciled, portable, rendered, saved,
    afterWritable⟩ := exists_finish host valid middleWritable included plain covers solved known
      (some Solver.inProcess.name) (some config.locations.solverLogPath)
  have run := (prepared.perform_runTransition host plans planSaved).trans finished
  have solverWrites := (config.locations.within_savePlan _ _).of_perform planSaved
  have mappingWrites := (within_writeAtomic _ _).of_perform saved
  have mappingRead := read_of_writeAtomic saved
  have apartMiddle := apart.of_workingDirectory solverWrites.workingDirectory
  have solvedAfter : Solved config after groups := solved.of_writesOnly mappingWrites
    (apartMiddle.saved_ne 3 2 (by decide) rfl rfl) (apartMiddle.saved_ne 3 4 (by decide) rfl rfl)
  have shape := StripeGroupShape.ofCode_eq_ok (validate_eq_ok valid).toWhole config.cluster.nodes
  have recorded : Recorded config after before (StripeGroup.placement groups) groups :=
    recorded_of_written apart solverWrites.toChangesOnly prepared.loaded
      (.of_load (solved.load_placement covers valid))
      ⟨_, shape, .of_load (solved.load_groups covers)⟩ saved
  exact ⟨written, after, run,
    reconciles_of_recorded valid covers reconciled mappingRead rendered recorded,
    ended_of_reconciled valid covers reconciled mappingRead rendered solvedAfter portable,
    afterWritable, mappingWrites.workingDirectory.trans solverWrites.workingDirectory⟩

end Restripe.Transition
