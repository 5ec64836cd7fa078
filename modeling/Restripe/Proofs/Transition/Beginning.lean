import Restripe.Proofs.Transition.Failure
import Restripe.Proofs.Transition.Inputs

/-!
# The files of a new epoch

An epoch begins with two files, and they are written one after the other.  A run that succeeds
leaves both as they were derived from each other, unless one name stands for both or the second is
written over the first.  A run that fails leaves the mapping as it was, but it may have replaced the
placement by then: the mapping may have a path that cannot be written, or its file may be refused.
-/

namespace Restripe

open FileSystem Outcome

/-! ## A mapping is no placement -/

theorem separator_mem_initialBlockPath (dataDirectory : Path) (node : NodeId) (key : BlockKey) :
    Path.separator ∈ (initialBlockPath dataDirectory node key).bytes := by
  have bytes : (initialBlockPath dataDirectory node key).bytes =
      (dataDirectory.child (nodeDirectory node)).bytes ++
        Path.separator :: initialBlockName key :=
    Path.bytes_join_join (isName_initialBlockName key) (isName_nodeDirectory node)
  rw [bytes]
  exact List.mem_append_right _ List.mem_cons_self

theorem uint16?_of_spells {dataDirectory : Path} {node : NodeId} {key : BlockKey} {token : Text}
    (spells : ProvenanceTable.Spells token (initialBlockPath dataDirectory node key)) :
    Decimal.uint16? token = none := by
  have separates := separator_mem_initialBlockPath dataDirectory node key
  rw [spells.bytes] at separates
  obtain ⟨char, member, value⟩ := Utf8.exists_of_mem_encode (by decide) separates
  obtain rfl : char = '/' := Char.toNat_inj.mp value
  refine Option.eq_none_iff_forall_ne_some.mpr fun number read => ?_
  exact (Decimal.uint16?_eq_some.mp read).notMem (by decide) (by decide) member

/-- The mapping of a new epoch is not read as a placement. -/
theorem parse_ne_ok_of_render {dataDirectory : Path} {placement other : Placement}
    {table : ProvenanceTable} {entry : Entry} {text : Text} {shape : PlacementShape}
    (derived : initialProvenance dataDirectory placement = .ok table)
    (member : entry ∈ table.entries) (rendered : table.render = .ok text) :
    Placement.parse shape (Utf8.encode text) ≠ .ok other := by
  intro success
  obtain ⟨rows, writes, rfl⟩ := ProvenanceTable.render_eq_ok.mp rendered
  obtain ⟨row, inRows, location, written, tokens⟩ := exists_of_forall₂ writes member
  rw [Placement.parse, readRows_renderRow (ProvenanceTable.isRow_of_writes writes),
    ok_bind] at success
  obtain ⟨numbered, inNumbered, rfl⟩ : ∃ numbered ∈ numberRows 1 rows, numbered.tokens = row := by
    rw [← List.mem_map, tokens_numberRows]
    exact inRows
  obtain ⟨nodes, read⟩ := exists_of_mem_mapM success inNumbered
  obtain ⟨node, isNumeral⟩ := Placement.exists_uint16?_of_readRow read
    (show location ∈ numbered.tokens by simp [tokens, ProvenanceTable.entryTokens])
  rw [((mem_initialProvenance derived).mp member).2] at written
  rw [uint16?_of_spells (ProvenanceTable.spells_of_locationToken written)] at isNumeral
  cases isNumeral

namespace Transition

variable {config : Config} {fs after : FileSystem} {error : Error} {path : Path}

/-! ## The steps of beginning an epoch -/

/-- The placement and the table that a configuration begins an epoch with. -/
structure Begins (config : Config) (placement : Placement) (table : ProvenanceTable) : Prop where
  generated : Placement.generate config.code config.cluster config.solver.seed = .ok placement
  derived : initialProvenance config.locations.dataDirectory placement = .ok table

/-- A run that stops between its files: the placement is replaced, and the mapping is not. -/
def HalfDone (config : Config) (fs : FileSystem) (error : Error) (after : FileSystem) : Prop :=
  ∃ placement table middle, Begins config placement table ∧
    (placement.save config.locations.prePlacementPath).perform fs = (.ok (), middle) ∧
    (table.save config.locations.preBlockMappingPath).perform middle = (.error error, after) ∧
    (Spares fs [config.locations.preBlockMappingPath.temporary]
        config.locations.prePlacementPath →
      after.content? (fs.target config.locations.prePlacementPath) =
        some (Utf8.encode placement.render))

/-- A run that succeeds takes all its steps. -/
theorem begins_of_beginEpoch {summary : EpochSummary}
    (success : (beginEpoch config).perform fs = (.ok summary, after)) :
    ∃ fanIn placement table middle, config.validate = .ok fanIn ∧
      Begins config placement table ∧
      (placement.save config.locations.prePlacementPath).perform fs = (.ok (), middle) ∧
      (table.save config.locations.preBlockMappingPath).perform middle = (.ok (), after) := by
  obtain ⟨fanIn, valid, success⟩ := Disk.eq_ok_of_liftM success
  obtain ⟨placement, generated, success⟩ := Disk.eq_ok_of_liftM success
  obtain ⟨table, derived, success⟩ := Disk.eq_ok_of_liftM success
  obtain ⟨_, middle, placementSaved, success⟩ := Disk.bind_eq_ok.mp success
  obtain ⟨_, last, tableSaved, success⟩ := Disk.bind_eq_ok.mp success
  obtain ⟨-, rfl⟩ := Prod.mk.inj success
  exact ⟨fanIn, placement, table, middle, valid, ⟨generated, derived⟩, placementSaved, tableSaved⟩

/-- A run that fails stops before it writes anything, or at one of its files. -/
theorem begins_of_beginEpoch_error
    (failed : (beginEpoch config).perform fs = (.error error, after)) :
    after = fs ∨ ∃ placement table, Begins config placement table ∧
      ((placement.save config.locations.prePlacementPath).perform fs = (.error error, after) ∨
        ∃ middle,
          (placement.save config.locations.prePlacementPath).perform fs = (.ok (), middle) ∧
          (table.save config.locations.preBlockMappingPath).perform middle =
            (.error error, after)) := by
  rcases Disk.eq_error_of_unchanged (Disk.within_liftM _) failed with same | ⟨fanIn, -, failed⟩
  · exact .inl same
  rcases Disk.eq_error_of_unchanged (Disk.within_liftM _) failed with same |
    ⟨placement, generated, failed⟩
  · exact .inl same
  rcases Disk.eq_error_of_unchanged (Disk.within_liftM _) failed with same |
    ⟨table, derived, failed⟩
  · exact .inl same
  refine .inr ⟨placement, table, ⟨(Prod.mk.inj generated).1, (Prod.mk.inj derived).1⟩, ?_⟩
  rcases Disk.bind_eq_error.mp failed with unsaved | ⟨_, middle, saved, failed⟩
  · exact .inl unsaved
  · rcases Disk.bind_eq_error.mp failed with unsaved | ⟨_, _, _, impossible⟩
    · exact .inr ⟨middle, saved, unsaved⟩
    · cases (Prod.mk.inj impossible).1

theorem writesOnly_of_saveTable_error {table : ProvenanceTable}
    (failed : (table.save path).perform fs = (.error error, after)) :
    WritesOnly [path.temporary] fs after := by
  rcases Disk.eq_error_of_unchanged (Disk.within_liftM _) failed with rfl | ⟨text, -, failed⟩
  · exact .refl _ _
  · exact writesOnly_of_writeAtomic_error failed

theorem exists_text_of_saveTable {table : ProvenanceTable}
    (saved : (table.save path).perform fs = (.ok (), after)) :
    ∃ text, table.render = .ok text ∧
      (writeAtomic path (Utf8.encode text)).perform fs = (.ok (), after) :=
  Disk.eq_ok_of_liftM saved

/-! ## What a run leaves -/

theorem keeps_of_writesOnly {paths : List Path} (writes : WritesOnly paths fs after)
    (spares : Spares fs paths path) : Keeps path fs after :=
  writes.contents (fs.target path) spares

theorem spares_temporary (fs : FileSystem) (path : Path) : Spares fs [path.temporary] path := by
  simpa [Spares] using target_temporary_ne fs path

/-- A run that fails keeps the mapping, and the placement too unless it is half done. -/
theorem kept_of_beginEpoch_error
    (failed : (beginEpoch config).perform fs = (.error error, after)) :
    (Spares fs [config.locations.prePlacementPath, config.locations.prePlacementPath.temporary]
        config.locations.preBlockMappingPath →
      Keeps config.locations.preBlockMappingPath fs after) ∧
    (Keeps config.locations.prePlacementPath fs after ∨ HalfDone config fs error after) := by
  rcases begins_of_beginEpoch_error failed with rfl | ⟨placement, table, begins, stopped⟩
  · exact ⟨fun _ => rfl, .inl rfl⟩
  rcases stopped with unsaved | ⟨middle, saved, unsaved⟩
  · have writes := writesOnly_of_writeAtomic_error unsaved
    refine ⟨fun spares => ?_, .inl (keeps_of_writesOnly writes (spares_temporary _ _))⟩
    exact keeps_of_writesOnly (writes.mono (by simp)) spares
  · have first := (within_writeAtomic _ _).of_perform saved
    have second := writesOnly_of_saveTable_error unsaved
    have targets := target_congr first.workingDirectory
    refine ⟨fun spares => ?_, .inr ⟨placement, table, middle, begins, saved, unsaved, ?_⟩⟩
    · refine keeps_of_writesOnly (first.append second) fun file member => ?_
      rcases List.mem_append.mp member with isPlacement | isMapping
      · exact spares file isPlacement
      · exact spares_temporary fs _ file isMapping
    · intro spares
      obtain ⟨_, _, _, _, held⟩ := writeAtomic_eq_ok saved
      rw [targets] at held
      rw [second.contents _ fun file member => targets file ▸ spares file member, held]

/-- A run that succeeds leaves the mapping of its placement, and the placement just where writing
the mapping has spared it. -/
theorem loaded_of_beginEpoch {summary : EpochSummary}
    (success : (beginEpoch config).perform fs = (.ok summary, after)) :
    ∃ placement table, Begins config placement table ∧
      (ProvenanceTable.load config.locations.preBlockMappingPath).perform after =
        (.ok table, after) ∧
      ((Placement.load ⟨config.code.widthBefore, config.cluster.nodes⟩
          config.locations.prePlacementPath).perform after = (.ok placement, after) ↔
        Spares fs [config.locations.preBlockMappingPath,
          config.locations.preBlockMappingPath.temporary] config.locations.prePlacementPath) := by
  obtain ⟨fanIn, placement, table, middle, valid, begins, placementSaved, tableSaved⟩ :=
    begins_of_beginEpoch success
  obtain ⟨text, rendered, tableWritten⟩ := exists_text_of_saveTable tableSaved
  have admits := validate_eq_ok valid
  have drawn : placement.Drawn config.code config.cluster := by
    rcases Placement.drawn_of_generate admits config.solver.seed with drawn | failed
    · obtain ⟨other, generated, drawn⟩ := drawn
      exact Except.ok.inj (generated.symm.trans begins.generated) ▸ drawn
    · rw [begins.generated] at failed
      cases failed
  have nonempty : 0 < config.code.widthBefore.toNat := by
    rw [admits.widthBefore_eq]
    exact Nat.add_pos_left admits.dataBefore_pos _
  have first := (within_writeAtomic _ _).of_perform placementSaved
  have second := (within_writeAtomic _ _).of_perform tableWritten
  have middleTargets := target_congr first.workingDirectory
  have targets (path : Path) : after.target path = fs.target path :=
    (target_congr second.workingDirectory path).trans (middleTargets path)
  have mapping := read_of_writeAtomic tableWritten
  refine ⟨placement, table, begins, ?_, ?_, ?_⟩
  · exact loadWith_eq_ok.mpr ⟨rfl, _, mapping, ProvenanceTable.parse_of_render rendered⟩
  · intro loaded
    obtain ⟨-, bytes, read, parsed⟩ := loadWith_eq_ok.mp loaded
    have content := (read_eq_ok.mp read).2
    simp only [Spares, List.forall_mem_cons, ← targets]
    refine ⟨fun same => ?_, fun same => ?_, by simp⟩
    · -- Under one name only the mapping is left, and it is no placement.
      rw [← same, (read_eq_ok.mp mapping).2, Option.some.injEq] at content
      subst content
      obtain ⟨entry, member⟩ : ∃ entry, entry ∈ table.entries := by
        have recorded : table.contains ⟨0, 0⟩ = true := by
          refine (contains_initialProvenance begins.derived).mpr ?_
          refine (Placement.exists_holder? fun nodes member =>
            (drawn.rows nodes member).length_eq).mpr ⟨?_, nonempty⟩
          rw [drawn.length_eq]
          exact admits.stripes_pos
        obtain ⟨entry, member, -⟩ := ProvenanceTable.contains_eq_true.mp recorded
        exact ⟨entry, member⟩
      exact parse_ne_ok_of_render begins.derived member rendered parsed
    · rw [← same, content?_temporary_of_writeAtomic tableWritten] at content
      cases content
  · intro spares
    have spared : Spares middle [config.locations.preBlockMappingPath,
        config.locations.preBlockMappingPath.temporary] config.locations.prePlacementPath := by
      intro file member
      rw [middleTargets, middleTargets]
      exact spares file member
    have read := read_of_writesOnly (read_of_writeAtomic placementSaved) second spared
    exact perform_loadPlacement read nonempty drawn.rows

/-- A run that fails keeps the mapping, and the placement unless it is half done.  A run that
succeeds leaves the mapping of the placement that it generates, and this placement just where
writing the mapping spares it. -/
theorem beginEpoch_files (config : Config) (fs : FileSystem) :
    (∀ error after, (beginEpoch config).perform fs = (.error error, after) →
      (Spares fs [config.locations.prePlacementPath, config.locations.prePlacementPath.temporary]
          config.locations.preBlockMappingPath →
        Keeps config.locations.preBlockMappingPath fs after) ∧
      (Keeps config.locations.prePlacementPath fs after ∨ HalfDone config fs error after)) ∧
    ∀ summary after, (beginEpoch config).perform fs = (.ok summary, after) →
      ∃ placement table, Begins config placement table ∧
        (ProvenanceTable.load config.locations.preBlockMappingPath).perform after =
          (.ok table, after) ∧
        ((Placement.load ⟨config.code.widthBefore, config.cluster.nodes⟩
            config.locations.prePlacementPath).perform after = (.ok placement, after) ↔
          Spares fs [config.locations.preBlockMappingPath,
            config.locations.preBlockMappingPath.temporary] config.locations.prePlacementPath) :=
  ⟨fun _ _ => kept_of_beginEpoch_error, fun _ _ => loaded_of_beginEpoch⟩

/-- The files that an earlier run has left of the placement of `spaced`. -/
def leftover : FileSystem where
  nodes := [(vacant.target spaced.locations.prePlacementPath,
    .file (Bytes.ofString "old\n") false)]
  workingDirectory := []

/-- No block of a data directory with a blank in its name can be recorded, and by the time that
turns out the earlier placement is gone. -/
theorem placement_replaced_of_spaced :
    (∃ fanIn, spaced.validate = .ok fanIn) ∧
    ∃ node after, (beginEpoch spaced).perform leftover = (.error (.internal (.unwritableLocation
        ⟨0, 0⟩ (initialBlockPath spaced.locations.dataDirectory node ⟨0, 0⟩))), after) ∧
      ¬Keeps spaced.locations.prePlacementPath leftover after := by
  refine ⟨⟨2, rfl⟩, 2, ((beginEpoch spaced).perform leftover).2, by decide +kernel, ?_⟩
  unfold Keeps
  decide +kernel

end Transition

end Restripe
