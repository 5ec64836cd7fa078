import Restripe.Proofs.Datum.Field
import Restripe.Proofs.Datum.Json
import Restripe.Report

/-!
# Reports that read back

A report is kept as JSON just if all its paths are text, and what is kept is read back as the same
report.  Each record of a report is read back from its written form, so the whole is.
-/

namespace Restripe

/-! ## Written forms -/

@[simp] theorem Datum.plain_natural (value : Nat) : (Datum.natural value).Plain :=
  .natural value

@[simp] theorem Datum.plain_bool (value : Bool) : (Datum.bool value).Plain :=
  .bool value

@[simp] theorem Datum.plain_text (value : String) : (Datum.text value).Plain :=
  .text value

@[simp] theorem Datum.plain_null : Datum.null.Plain :=
  .null

theorem Code.ofDatum?_toDatum (code : Code) : ofDatum? code.toDatum = some code :=
  bind_of_read rfl <| bind_of_read (Datum.uint16?_natural _) <|
    bind_of_read (Datum.uint16?_natural _) <| bind_of_read (Datum.uint16?_natural _) <|
    bind_of_read (Datum.uint16?_natural _) rfl

theorem Cluster.ofDatum?_toDatum (cluster : Cluster) :
    ofDatum? cluster.toDatum = some cluster :=
  bind_of_read rfl <| bind_of_read (Datum.uint16?_natural _) <|
    bind_of_read (Datum.uint32?_natural _) rfl

theorem Stats.ofDatum?_toDatum (stats : Stats) : ofDatum? stats.toDatum = some stats :=
  bind_of_read rfl <| bind_of_read (Datum.uint64?_natural _) <|
    bind_of_read (Datum.uint64?_natural _) <| bind_of_read (Datum.uint64?_natural _) <|
    bind_of_read (Datum.uint64?_natural _) <| bind_of_read (Datum.uint64?_natural _) <|
    bind_of_read (Datum.uint64?_natural _) rfl

@[simp] theorem Code.plain_toDatum (code : Code) : code.toDatum.Plain :=
  .record (by simp)

@[simp] theorem Cluster.plain_toDatum (cluster : Cluster) : cluster.toDatum.Plain :=
  .record (by simp)

@[simp] theorem Stats.plain_toDatum (stats : Stats) : stats.toDatum.Plain :=
  .record (by simp)

@[simp] theorem Approach.plain_toDatum (approach : Approach) : approach.toDatum.Plain :=
  .text _

theorem Path.plain_of_toDatum? {path : Path} {datum : Datum}
    (written : path.toDatum? = some datum) : datum.Plain := by
  obtain ⟨text, -, rfl⟩ := toDatum?_eq_some.mp written
  exact .text _

/-- A path that may be missing is read back from its written form. -/
theorem optional_of_optionalPathDatum? {path : Option Path} {datum : Datum}
    (written : optionalPathDatum? path = some datum) :
    datum.Plain ∧ Slot.nullable Path.ofDatum? datum = some path := by
  cases path with
  | none =>
      obtain rfl : Datum.null = datum := Option.some.inj written
      exact ⟨.null, rfl⟩
  | some path => exact ⟨Path.plain_of_toDatum? written, Path.nullable_of_toDatum? written⟩

theorem exists_optionalPathDatum? {path : Option Path} :
    (∃ datum, optionalPathDatum? path = some datum) ↔ ∀ given ∈ path, given.IsText := by
  cases path with
  | none => simp [optionalPathDatum?]
  | some path => simpa [optionalPathDatum?] using Path.exists_toDatum?

namespace ReportArtifacts

def paths (artifacts : ReportArtifacts) : List Path :=
  artifacts.prePlacement :: artifacts.preBlockMapping.toList ++ artifacts.postPlacement ::
    artifacts.stripeGroups :: artifacts.postBlockMapping :: artifacts.solverLog.toList

theorem exists_toDatum? {artifacts : ReportArtifacts} :
    (∃ datum, artifacts.toDatum? = some datum) ↔ ∀ path ∈ artifacts.paths, path.IsText := by
  simp [toDatum?, paths, Option.bind_eq_some_iff, Path.exists_toDatum?, exists_optionalPathDatum?,
    or_imp, forall_and]

theorem ofDatum?_of_toDatum? {artifacts : ReportArtifacts} {datum : Datum}
    (written : artifacts.toDatum? = some datum) :
    datum.Plain ∧ ofDatum? datum = some artifacts := by
  simp only [toDatum?, Option.bind_eq_bind, Option.bind_eq_some_iff, Option.pure_def,
    Option.some.injEq] at written
  obtain ⟨prePlacement, first, preBlockMapping, second, postPlacement, third, stripeGroups, fourth,
    postBlockMapping, fifth, solverLog, sixth, rfl⟩ := written
  obtain ⟨secondPlain, secondRead⟩ := optional_of_optionalPathDatum? second
  obtain ⟨sixthPlain, sixthRead⟩ := optional_of_optionalPathDatum? sixth
  constructor
  · refine .record ?_
    simp [secondPlain, sixthPlain, Path.plain_of_toDatum? first, Path.plain_of_toDatum? third,
      Path.plain_of_toDatum? fourth, Path.plain_of_toDatum? fifth]
  · exact bind_of_read rfl <| bind_of_read (Path.ofDatum?_of_toDatum? first) <|
      bind_of_read secondRead <| bind_of_read (Path.ofDatum?_of_toDatum? third) <|
      bind_of_read (Path.ofDatum?_of_toDatum? fourth) <|
      bind_of_read (Path.ofDatum?_of_toDatum? fifth) <| bind_of_read sixthRead rfl

end ReportArtifacts

theorem nullable_ofOption (name : Option String) :
    Slot.nullable Datum.text? (Datum.ofOption (name.map .text)) = some name := by
  cases name <;> rfl

@[simp] theorem Datum.plain_ofOption (name : Option String) :
    (Datum.ofOption (name.map .text)).Plain := by
  cases name
  · exact .null
  · exact .text _

namespace Report

theorem exists_toDatum? {report : Report} :
    (∃ datum, report.toDatum? = some datum) ↔ ∀ path ∈ report.artifacts.paths, path.IsText := by
  rw [← ReportArtifacts.exists_toDatum?]
  simp [toDatum?, Option.bind_eq_some_iff]

theorem ofDatum?_of_toDatum? {report : Report} {datum : Datum}
    (written : report.toDatum? = some datum) : datum.Plain ∧ ofDatum? datum = some report := by
  simp only [toDatum?, Option.bind_eq_bind, Option.bind_eq_some_iff, Option.pure_def,
    Option.some.injEq] at written
  obtain ⟨artifacts, filesWritten, rfl⟩ := written
  obtain ⟨plain, read⟩ := ReportArtifacts.ofDatum?_of_toDatum? filesWritten
  constructor
  · refine .record ?_
    simp [plain]
  · exact bind_of_read rfl <| bind_of_read (Code.ofDatum?_toDatum _) <|
      bind_of_read (Cluster.ofDatum?_toDatum _) <| bind_of_read (Datum.uint16?_natural _) <|
      bind_of_read (Approach.ofDatum?_toDatum _ _) <| bind_of_read (nullable_ofOption _) <|
      bind_of_read (Datum.bool?_bool _) <| bind_of_read (Datum.uint64?_natural _) <|
      bind_of_read (Datum.uint64?_natural _) <| bind_of_read (Stats.ofDatum?_toDatum _) <|
      bind_of_read (Datum.uint64?_natural _) <| bind_of_read (Datum.uint64?_natural _) <|
      bind_of_read read rfl

/-- A report has a JSON text just if all its paths are text, and the text is read as the report,
also with the line end that it has in a file. -/
theorem ofJson_of_toJson (report : Report) :
    ((∃ text, report.toJson? = some text) ↔ ∀ path ∈ report.artifacts.paths, path.IsText) ∧
    ∀ text, report.toJson? = some text →
      ofJson? text = some report ∧ ofJson? (text ++ ['\n']) = some report := by
  constructor
  · rw [← exists_toDatum?]
    simp [toJson?]
  · intro text kept
    obtain ⟨datum, written, rfl⟩ := Option.map_eq_some_iff.mp kept
    obtain ⟨plain, read⟩ := ofDatum?_of_toDatum? written
    have parsed (blanks : Text) (blank : Json.IsBlank blanks) :
        ofJson? (Json.pretty datum ++ blanks) = some report := by
      rw [ofJson?, Json.pretty, Json.parse?_write Json.Layout.blank_indented plain 0 blank]
      exact read
    have alone := parsed [] (List.forall_mem_nil _)
    rw [List.append_nil] at alone
    exact ⟨alone, parsed ['\n'] (List.forall_mem_singleton.mpr (.inr rfl))⟩

end Report

end Restripe
