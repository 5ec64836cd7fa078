import Mathlib.Algebra.Group.Nat.Defs
import Restripe.Config.File
import Restripe.Proofs.Datum.Field
import Restripe.Proofs.Datum.Toml.Section

/-!
# Configurations that read back

A configuration is kept as TOML just if all its paths are text and its numbers are within the bound
of integers, and what is kept is read back as the same configuration.  Each section is read back
from its written form, so the whole is; a path that was left out stays left out.
-/

namespace Restripe

open Toml

/-! ## Paths -/

theorem Path.isWritable_of_toDatum? {path : Path} {datum : Datum}
    (written : path.toDatum? = some datum) : IsWritable datum := by
  obtain ⟨text, -, rfl⟩ := toDatum?_eq_some.mp written
  exact isWritable_text _

theorem exists_pathMember? {name : String} {path : Path} :
    (∃ member, pathMember? name path = some member) ↔ path.IsText := by
  rw [← Path.exists_toDatum?]
  simp [pathMember?]

/-! ## Sections -/

/-- Whether members keep a value as a section: their names need no quotes and are all different, all
of them have a written form just if the value fits, and they are read back as the value. -/
structure Keeps (read : Dialect → Datum → Option α) (fits : Prop) (value : α)
    (members : List (String × Datum)) : Prop where
  named : WellNamed (members.map Prod.fst)
  writable : (∀ member ∈ members, IsWritable member.2) ↔ fits
  readBack : ∀ dialect, read dialect (.record members) = some value

namespace Locations

/-- The paths of the directories and the artifacts. -/
def paths (locations : Locations) : List Path :=
  [locations.metadataDirectory, locations.dataDirectory, locations.prePlacement,
    locations.preBlockMapping, locations.postPlacement, locations.postBlockMapping,
    locations.stripeGroups, locations.solverLog]

theorem exists_toMembers? {locations : Locations} :
    (∃ members, locations.toMembers? = some members) ↔ ∀ path ∈ locations.paths, path.IsText := by
  rw [toMembers?, exists_mapM]
  simp only [paths, List.forall_mem_cons, id, exists_pathMember?, List.not_mem_nil, false_implies,
    implies_true]

theorem keeps_of_toMembers? {locations : Locations} {members : List (String × Datum)}
    (written : locations.toMembers? = some members) : Keeps ofDatum? True locations members := by
  simp only [toMembers?, List.mapM_cons, List.mapM_nil, id, pathMember?, Option.bind_eq_bind,
    Option.bind_map, Option.bind_assoc, Option.pure_def, Option.bind_some,
    Function.comp_def] at written
  simp only [Option.bind_eq_some_iff, Option.some.injEq] at written
  obtain ⟨metadataDirectory, first, dataDirectory, second, prePlacement, third, preBlockMapping,
    fourth, postPlacement, fifth, postBlockMapping, sixth, stripeGroups, seventh, solverLog, eighth,
    rfl⟩ := written
  refine ⟨?_, ?_, fun dialect => ?_⟩
  · simp only [List.map_cons, List.map_nil]
    decide
  · simp [Path.isWritable_of_toDatum? first, Path.isWritable_of_toDatum? second,
      Path.isWritable_of_toDatum? third, Path.isWritable_of_toDatum? fourth,
      Path.isWritable_of_toDatum? fifth, Path.isWritable_of_toDatum? sixth,
      Path.isWritable_of_toDatum? seventh, Path.isWritable_of_toDatum? eighth]
  · exact bind_of_read rfl <| bind_of_read (Path.ofDatum?_of_toDatum? first) <|
      bind_of_read (Path.ofDatum?_of_toDatum? second) <|
      bind_of_read (Path.ofDatum?_of_toDatum? third) <|
      bind_of_read (Path.ofDatum?_of_toDatum? fourth) <|
      bind_of_read (Path.ofDatum?_of_toDatum? fifth) <|
      bind_of_read (Path.ofDatum?_of_toDatum? sixth) <|
      bind_of_read (Path.ofDatum?_of_toDatum? seventh) <|
      bind_of_read (Path.ofDatum?_of_toDatum? eighth) rfl

end Locations

namespace SolverSettings

def paths (settings : SolverSettings) : List Path :=
  settings.program.toList ++ settings.workingDirectory.toList

theorem exists_optionalMember? {name : String} {path : Option Path} :
    (∃ members, optionalMember? name path = some members) ↔ ∀ given ∈ path, given.IsText := by
  cases path with
  | none => simp [optionalMember?]
  | some path => simp [optionalMember?, ← @exists_pathMember? name]

theorem optionalMember?_eq_some {name : String} {path : Option Path}
    {members : List (String × Datum)} (written : optionalMember? name path = some members) :
    path = none ∧ members = [] ∨ ∃ given datum, path = some given ∧ members = [(name, datum)] ∧
      IsWritable datum ∧ Slot.nullable Path.ofDatum? datum = some (some given) := by
  cases path with
  | none => exact .inl ⟨rfl, (Option.some.inj written).symm⟩
  | some given =>
      simp only [optionalMember?, pathMember?, Option.map_map, Option.map_eq_some_iff] at written
      obtain ⟨datum, read, rfl⟩ := written
      exact .inr ⟨given, datum, rfl, rfl, Path.isWritable_of_toDatum? read,
        Path.nullable_of_toDatum? read⟩

theorem exists_toMembers? {settings : SolverSettings} :
    (∃ members, settings.toMembers? = some members) ↔ ∀ path ∈ settings.paths, path.IsText := by
  simp [toMembers?, paths, Option.bind_eq_some_iff, exists_optionalMember?, or_imp, forall_and]

theorem keeps_of_toMembers? {settings : SolverSettings} {members : List (String × Datum)}
    (written : settings.toMembers? = some members) :
    Keeps ofDatum? (settings.workers.toNat < integerBound ∧ settings.seed.toNat < integerBound)
      settings members := by
  obtain ⟨program, workingDirectory, workers, seed⟩ := settings
  simp only [toMembers?, Option.bind_eq_bind, Option.bind_eq_some_iff, Option.pure_def,
    Option.some.injEq] at written
  obtain ⟨programMembers, first, directoryMembers, second, rfl⟩ := written
  -- each of the two paths is there or not
  obtain ⟨rfl, rfl⟩ | ⟨givenProgram, programDatum, rfl, rfl, writable, readProgram⟩ :=
    optionalMember?_eq_some first
  all_goals
    obtain ⟨rfl, rfl⟩ | ⟨directory, directoryDatum, rfl, rfl, directoryWritable, readDirectory⟩ :=
      optionalMember?_eq_some second
  all_goals
    refine ⟨?_, ?_, fun dialect => ?_⟩
    · simp only [List.map_cons, List.map_nil, List.map_append]
      decide
    · simp [*]
    · exact bind_of_read rfl <| bind_of_read (by first | rfl | assumption) <|
        bind_of_read (by first | rfl | assumption) <| bind_of_read (Datum.uint64?_natural _) <|
        bind_of_read (Datum.uint64?_natural _) rfl

end SolverSettings

namespace Config

def paths (config : Config) : List Path :=
  config.locations.paths ++ config.solver.paths

theorem keeps_commonMembers (config : Config) :
    Keeps ofCommon? (config.blockSize.toNat < integerBound)
      { config with locations := {}, solver := {} } config.commonMembers := by
  have fits16 (value : UInt16) : value.toNat < integerBound :=
    value.toNat_lt_size.trans (by decide)
  have fits32 (value : UInt32) : value.toNat < integerBound :=
    value.toNat_lt_size.trans (by decide)
  refine ⟨?_, ?_, fun dialect => ?_⟩
  · simp only [commonMembers, List.map_cons, List.map_nil]
    decide
  · simp [commonMembers, fits16, fits32, Approach.toDatum]
  · exact bind_of_read rfl <| bind_of_read (Datum.uint16?_natural _) <|
      bind_of_read (Datum.uint16?_natural _) <| bind_of_read (Datum.uint16?_natural _) <|
      bind_of_read (Datum.uint16?_natural _) <| bind_of_read (Datum.uint16?_natural _) <|
      bind_of_read (Datum.uint32?_natural _) <| bind_of_read (Approach.ofDatum?_toDatum _ _) <|
      bind_of_read (Datum.bool?_bool _) <| bind_of_read (Datum.uint64?_natural _) rfl

theorem exists_toSections? {config : Config} :
    (∃ sections, config.toSections? = some sections) ↔ ∀ path ∈ config.paths, path.IsText := by
  simp only [toSections?, paths, Option.bind_eq_bind, Option.bind_eq_some_iff, Option.pure_def,
    Option.some.injEq, List.forall_mem_append, ← Locations.exists_toMembers?,
    ← SolverSettings.exists_toMembers?]
  constructor
  · rintro ⟨_, locations, first, solver, second, -⟩
    exact ⟨⟨locations, first⟩, solver, second⟩
  · rintro ⟨⟨locations, first⟩, solver, second⟩
    exact ⟨_, locations, first, solver, second, rfl⟩

/-- Each of the three sections keeps its part of a configuration. -/
theorem toSections?_eq_some {config : Config} {sections : List (String × List (String × Datum))}
    (written : config.toSections? = some sections) : ∃ locations solver,
      sections = [("common", config.commonMembers), ("paths", locations), ("solver", solver)] ∧
      Keeps Locations.ofDatum? True config.locations locations ∧
      Keeps SolverSettings.ofDatum? (config.solver.workers.toNat < integerBound ∧
        config.solver.seed.toNat < integerBound) config.solver solver := by
  simp only [toSections?, Option.bind_eq_bind, Option.bind_eq_some_iff, Option.pure_def,
    Option.some.injEq] at written
  obtain ⟨locations, first, solver, second, rfl⟩ := written
  exact ⟨locations, solver, rfl, Locations.keeps_of_toMembers? first,
    SolverSettings.keeps_of_toMembers? second⟩

theorem wellNamed_of_toSections? {config : Config}
    {sections : List (String × List (String × Datum))}
    (written : config.toSections? = some sections) :
    WellNamed (sections.map Prod.fst) ∧ ∀ part ∈ sections, WellNamed (part.2.map Prod.fst) := by
  obtain ⟨locations, solver, rfl, keepsLocations, keepsSolver⟩ := toSections?_eq_some written
  constructor
  · simp only [List.map_cons, List.map_nil]
    decide
  · simp only [List.forall_mem_cons]
    exact ⟨config.keeps_commonMembers.named, keepsLocations.named, keepsSolver.named,
      List.forall_mem_nil _⟩

theorem isWritable_of_toSections? {config : Config}
    {sections : List (String × List (String × Datum))}
    (written : config.toSections? = some sections) :
    (∀ part ∈ sections, ∀ member ∈ part.2, IsWritable member.2) ↔
      config.blockSize.toNat < integerBound ∧ config.solver.workers.toNat < integerBound ∧
        config.solver.seed.toNat < integerBound := by
  obtain ⟨locations, solver, rfl, keepsLocations, keepsSolver⟩ := toSections?_eq_some written
  simp only [List.forall_mem_cons, config.keeps_commonMembers.writable, keepsLocations.writable,
    keepsSolver.writable, List.not_mem_nil, false_implies, implies_true, true_and, and_true]

theorem ofDatum?_of_toSections? {config : Config}
    {sections : List (String × List (String × Datum))}
    (written : config.toSections? = some sections) (dialect : Dialect) :
    ofDatum? dialect (.record (sections.map fun part => (part.1, .record part.2))) =
      some config := by
  obtain ⟨locations, solver, rfl, keepsLocations, keepsSolver⟩ := toSections?_eq_some written
  exact bind_of_read rfl <| bind_of_read (config.keeps_commonMembers.readBack _) <|
    bind_of_read (keepsLocations.readBack _) <| bind_of_read (keepsSolver.readBack _) rfl

/-- A configuration has a TOML text just if all its paths are text and the block size, the workers
and the seed are below `2 ^ 63`, and the text is read as the configuration. -/
theorem ofToml_of_toToml (config : Config) :
    ((∃ text, config.toToml = .ok text) ↔ (∀ path ∈ config.paths, path.IsText) ∧
      config.blockSize.toNat < 2 ^ 63 ∧ config.solver.workers.toNat < 2 ^ 63 ∧
        config.solver.seed.toNat < 2 ^ 63) ∧
    ∀ text, config.toToml = .ok text → ofToml text = .ok config := by
  have kept {text : Text} : config.toToml = .ok text ↔
      ∃ sections, config.toSections? = some sections ∧ writeSections? sections = some text := by
    rw [← Option.bind_eq_some_iff, toToml, Option.bind_eq_bind]
    cases config.toSections?.bind writeSections? with
    | none => exact ⟨nofun, nofun⟩
    | some written => simp [pure, Except.pure]
  have bound : integerBound = 2 ^ 63 := by decide
  constructor
  · rw [← exists_toSections?, ← bound]
    constructor
    · rintro ⟨text, written⟩
      obtain ⟨sections, parts, lines⟩ := kept.mp written
      have writable := exists_writeSections?.mp ⟨text, lines⟩
      exact ⟨⟨sections, parts⟩, (isWritable_of_toSections? parts).mp writable⟩
    · rintro ⟨⟨sections, parts⟩, small⟩
      have writable := (isWritable_of_toSections? parts).mpr small
      obtain ⟨text, lines⟩ := exists_writeSections?.mpr writable
      exact ⟨text, kept.mpr ⟨sections, parts, lines⟩⟩
  · intro text written
    obtain ⟨sections, parts, lines⟩ := kept.mp written
    obtain ⟨names, members⟩ := wellNamed_of_toSections? parts
    rw [ofToml, parse?_of_writeSections? names members lines, Option.bind_eq_bind,
      Option.bind_some, ofDatum?_of_toSections? parts]
    rfl

end Config

end Restripe
