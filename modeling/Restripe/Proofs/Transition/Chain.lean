import Mathlib.Data.List.Chain
import Restripe.Proofs.Transition.Step

/-!
# Chains of transitions

What a transition leaves is what the next one begins with.  So after an epoch has begun, any number
of transitions succeed one after the other, each with its own code, approach, seed and workers, and
managed or not.  All that is asked for is that the artifacts can be written and that those of one
transition are apart: a file that lies beside another under the name of its temporary file is gone
once the other is written.
-/

namespace Restripe.Transition

open FileSystem Outcome

/-- A transition goes on where another has ended: its files before are the other's files after, and
so are its stripes, on no fewer nodes. -/
structure Follows (earlier later : Config) : Prop where
  placement : later.locations.prePlacementPath = earlier.locations.postPlacementPath
  mapping : later.locations.preBlockMappingPath = earlier.locations.postBlockMappingPath
  data : later.code.dataBefore = earlier.code.dataAfter
  parity : later.code.parityBefore = earlier.code.parityAfter
  stripes : ∃ fanIn, earlier.code.fanIn = .ok fanIn ∧
    earlier.cluster.stripesAfter fanIn = .ok later.cluster.stripes
  nodes : earlier.cluster.nodes ≤ later.cluster.nodes

/-- How the artifacts of some transitions are written. -/
def ArtifactWrites (configs : List Config) (action : Disk Unit) : Prop :=
  ∃ config ∈ configs, config.locations.Writes action

/-- The transitions succeed one after the other, and each leaves what it has reconciled. -/
inductive Runs (host : Host) : FileSystem → List Config → Prop where
  | done {fs : FileSystem} : Runs host fs []
  | next {fs after : FileSystem} {config : Config} {others : List Config} {report : Report}
      (success : (runTransition host config .inProcess).perform fs = (.ok report, after))
      (reconciles : Reconciles host config after) (rest : Runs host after others) :
      Runs host fs (config :: others)

/-- The epoch that a transition leaves is the one that the next begins with. -/
theorem Follows.begun {earlier later : Config} {fs : FileSystem} (follows : Follows earlier later)
    (ended : Ended earlier fs) : Begun later fs := by
  obtain ⟨fanIn, stripes, fanIn_eq, counted, onDisk⟩ := ended
  obtain ⟨otherFanIn, otherFanIn_eq, otherCounted⟩ := follows.stripes
  have sameFanIn : fanIn = otherFanIn := Except.ok.inj (fanIn_eq.symm.trans otherFanIn_eq)
  rw [← sameFanIn, counted, Except.ok.injEq] at otherCounted
  have width : later.code.widthBefore = earlier.code.widthAfter := by
    rw [Code.widthBefore, Code.widthAfter, follows.data, follows.parity]
  obtain ⟨placement, read, length, rows⟩ := onDisk.placement
  rw [Begun, follows.placement, follows.mapping, follows.data, ← otherCounted, width]
  exact ⟨⟨placement, read, length, fun nodes member => (rows nodes member).mono follows.nodes⟩,
    onDisk.mapping⟩

/-- Transitions that follow each other succeed one after the other. -/
theorem runs_of_begun (host : Host) {writes : Disk Unit → Prop} {configs : List Config}
    {fs : FileSystem} (valid : ∀ config ∈ configs, ∃ fanIn, config.validate = .ok fanIn)
    (linked : configs.IsChain Follows) (apart : ∀ config ∈ configs, config.locations.Apart fs)
    (writable : Writable writes fs)
    (included : ∀ config ∈ configs, ∀ action, config.locations.Writes action → writes action)
    (plain : ∀ config ∈ configs, config.locations.dataDirectory.IsPlain)
    (begun : ∀ config ∈ configs.head?, Begun config fs) : Runs host fs configs := by
  induction configs generalizing fs with
  | nil => exact .done
  | cons config others ih =>
      obtain ⟨fanIn, validated⟩ := valid config List.mem_cons_self
      obtain ⟨report, after, success, reconciles, ended, afterWritable, directory⟩ :=
        exists_runTransition host validated (apart config List.mem_cons_self) writable
          (included config List.mem_cons_self) (plain config List.mem_cons_self)
          (begun config rfl)
      refine .next success reconciles (ih ?_ linked.tail ?_ afterWritable ?_ ?_ ?_)
      · exact fun other member => valid other (List.mem_cons_of_mem config member)
      · exact fun other member =>
          (apart other (List.mem_cons_of_mem config member)).of_workingDirectory directory
      · exact fun other member => included other (List.mem_cons_of_mem config member)
      · exact fun other member => plain other (List.mem_cons_of_mem config member)
      · intro later isNext
        cases others with
        | nil => cases isNext
        | cons other rest =>
            have same : other = later := Option.some.inj isNext
            exact (same ▸ linked.rel).begun ended

/-- The output of a transition is always a usable input.  Beginning an epoch and then running any
number of transitions, each of which goes on where the one before it has ended, never fails, and
every transition leaves a mapping that is loaded as the reconciled table. -/
theorem runs_after_beginEpoch (host : Host) {first : Config} {later : List Config}
    {fs : FileSystem} (valid : ∀ config ∈ first :: later, ∃ fanIn, config.validate = .ok fanIn)
    (linked : (first :: later).IsChain Follows)
    (apart : ∀ config ∈ first :: later, config.locations.Apart fs)
    (writable : Writable (ArtifactWrites (first :: later)) fs)
    (plain : ∀ config ∈ first :: later, config.locations.dataDirectory.IsPlain)
    (drawn : Placement.generate first.code first.cluster first.solver.seed
      ≠ .error (.fault .tooManyDraws)) :
    ∃ summary begun, (beginEpoch first).perform fs = (.ok summary, begun) ∧
      Runs host begun (first :: later) := by
  have included : ∀ config ∈ first :: later, ∀ action, config.locations.Writes action →
      ArtifactWrites (first :: later) action :=
    fun config member action isWrite => ⟨config, member, isWrite⟩
  have isFirst : first ∈ first :: later := List.mem_cons_self
  obtain ⟨fanIn, validated⟩ := valid first isFirst
  obtain ⟨summary, begun, success, begunWritable, directory, onDisk⟩ :=
    exists_beginEpoch validated writable (included first isFirst)
      ((apart first isFirst).saved_ne 1 0 (by decide) rfl rfl) (plain first isFirst) drawn
  refine ⟨summary, begun, success, runs_of_begun host valid linked ?_ begunWritable included plain
    ?_⟩
  · exact fun config member => (apart config member).of_workingDirectory directory
  · intro config isHead
    have same : first = config := Option.some.inj isHead
    exact same ▸ onDisk

/-! ## Names in one directory -/

/-- Artifacts that all lie in one directory can be written, whatever they are called. -/
theorem writable_of_bare {configs : List Config} {fs : FileSystem} (flat : fs.IsFlat)
    (bare : ∀ config ∈ configs, ∀ path ∈ config.locations.artifactPaths,
      path.IsBare ∧ path.bytes.length + 4 ≤ Path.maxName) :
    Writable (ArtifactWrites configs) fs := by
  refine writable_of_invariant flat fun fs flat action isWrite => ?_
  obtain ⟨config, member, isWrite⟩ := isWrite
  cases isWrite with
  | saved path isArtifact content =>
      have included : path ∈ config.locations.artifactPaths := by
        simp only [Locations.savedPaths, Locations.artifactPaths, List.mem_cons,
          List.not_mem_nil, or_false] at isArtifact ⊢
        rcases isArtifact with same | same | same | same | same <;> simp [same]
      obtain ⟨isBare, room⟩ := bare config member path included
      exact flat.exists_writeAtomic isBare room content
  | logged content =>
      have isBare := (bare config member config.locations.solverLogPath
        (by simp [Locations.artifactPaths])).1
      obtain ⟨executable, written⟩ := flat.perform_write isBare content
      exact ⟨_, (Disk.perform_bind_ok (isBare.perform_makeParents fs)).trans written,
        flat.set_file _ content executable⟩

def vacant : FileSystem := ⟨[], []⟩

theorem isFlat_vacant : vacant.IsFlat := by
  refine ⟨rfl, fun address found => ?_⟩
  by_contra notRoot
  simp [vacant, find?, notRoot] at found

theorem isPlain_data : (Path.ofString "data").IsPlain :=
  ⟨['d', 'a', 't', 'a'], by decide, by decide, noBlank_of_any (by decide)⟩

/-- The stripe that `paired` leaves, handed over to an outside catalog. -/
def entrusted : Config where
  code := ⟨2, 1, 2, 1⟩
  cluster := ⟨3, 1⟩
  approach := .balanced
  managed := true
  locations :=
    { metadataDirectory := ⟨[]⟩
      prePlacement := .ofString "post_placement"
      preBlockMapping := .ofString "post_block_mapping"
      postPlacement := .ofString "next_placement"
      postBlockMapping := .ofString "next_block_mapping"
      stripeGroups := .ofString "next_meta"
      solverLog := .ofString "next.log" }

/-- No draw is given up for the placement of two stripes on three nodes. -/
theorem generate_paired : Placement.generate paired.code paired.cluster paired.solver.seed
    ≠ .error (.fault .tooManyDraws) := by
  intro failed
  have success : (Placement.generate paired.code paired.cluster paired.solver.seed).isOk = true :=
    by decide +kernel
  rw [failed] at success
  cases success

theorem runs_after_beginEpoch_paired :
    ∃ summary begun, (beginEpoch paired).perform vacant = (.ok summary, begun) ∧
      Runs idle begun [paired, entrusted] := by
  apply runs_after_beginEpoch
  · simp only [List.forall_mem_cons, List.not_mem_nil, false_implies, implies_true, and_true]
    exact ⟨⟨2, rfl⟩, ⟨1, rfl⟩⟩
  · exact .cons_cons ⟨by decide, by decide, rfl, rfl, ⟨2, rfl, rfl⟩, by decide⟩ (.singleton _)
  · simp only [List.forall_mem_cons, List.not_mem_nil, false_implies, implies_true, and_true]
    exact ⟨⟨by decide, by decide⟩, ⟨by decide, by decide⟩⟩
  · exact writable_of_bare isFlat_vacant (by decide)
  · simp only [List.forall_mem_cons, List.not_mem_nil, false_implies, implies_true, and_true]
    exact ⟨isPlain_data, isPlain_data⟩
  · exact generate_paired

/-! ## Files beside each other -/

/-- A placement that lies where the stripe groups have their temporary file is gone once these are
written, so the transition fails. -/
theorem run_of_sibling {config : Config} {fs after : FileSystem} (host : Host)
    (sibling : fs.target config.locations.postPlacementPath
      = fs.target config.locations.stripeGroupsPath.temporary)
    (logApart : fs.target config.locations.solverLogPath
      ≠ fs.target config.locations.postPlacementPath) (report : Report) :
    (runTransition host config .inProcess).perform fs ≠ (.ok report, after) := by
  intro success
  obtain ⟨_, _, _, _, _, middle, -, -, saved, finished⟩ := steps_of_runTransition success
  obtain ⟨_, _, _, _, ⟨bytes, held, _⟩, _⟩ := finish_eq_ok finished
  obtain ⟨first, second, placementSaved, groupsSaved, logged⟩ := Locations.savePlan_eq_ok.mp saved
  have placementWrites := (within_save_placement _ _).of_perform placementSaved
  have groupsWrites := (within_save_groups _ _).of_perform groupsSaved
  have logWrites := (config.locations.within_writeLog _).of_perform logged
  have directory := groupsWrites.workingDirectory.trans placementWrites.workingDirectory
  have missing := content?_temporary_of_writeAtomic groupsSaved
  rw [target_congr directory, ← sibling] at missing
  rw [target_congr (logWrites.workingDirectory.trans directory), logWrites.contents,
    missing] at held
  · cases held
  · simpa [target_congr directory] using logApart

/-- The stripes of `paired`, with the new placement beside the stripe groups. -/
def siblings : Config :=
  { paired with
    locations :=
      { metadataDirectory := ⟨[]⟩
        postPlacement := .ofString "meta.tmp"
        stripeGroups := .ofString "meta" } }

/-- The artifacts are different files that can be written, but two of them lie beside each other
under the name of a temporary file: the epoch begins, and the transition fails. -/
theorem siblings_without_report :
    (∃ fanIn, siblings.validate = .ok fanIn) ∧
    siblings.locations.artifactPaths.Pairwise
      (fun left right => vacant.target left ≠ vacant.target right) ∧
    Writable (ArtifactWrites [siblings]) vacant ∧ siblings.locations.dataDirectory.IsPlain ∧
    Placement.generate siblings.code siblings.cluster siblings.solver.seed
      ≠ .error (.fault .tooManyDraws) ∧
    ∃ summary begun, (beginEpoch siblings).perform vacant = (.ok summary, begun) ∧
      ∀ report after,
        (runTransition idle siblings .inProcess).perform begun ≠ (.ok report, after) := by
  have valid : siblings.validate = .ok 2 := rfl
  have writable : Writable (ArtifactWrites [siblings]) vacant :=
    writable_of_bare isFlat_vacant (by decide)
  obtain ⟨summary, begun, success, _, directory, _⟩ := exists_beginEpoch valid writable
    (fun action isWrite => ⟨siblings, List.mem_cons_self, isWrite⟩) (by decide) isPlain_data
    generate_paired
  refine ⟨⟨2, valid⟩, by decide, writable, isPlain_data, generate_paired, summary, begun, success,
    fun report after => run_of_sibling idle ?_ ?_ report⟩
  · rw [target_congr directory, target_congr directory]
    decide
  · rw [target_congr directory, target_congr directory]
    decide

end Restripe.Transition
