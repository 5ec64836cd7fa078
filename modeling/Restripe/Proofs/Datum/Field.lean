import Restripe.Datum.Block
import Restripe.Proofs.Text.Utf8

/-!
# Fields that read back

What is written of a number, a path or a name is read back as it was.  A path has a written form
just if it is text.
-/

namespace Restripe

/-! ## Fields in turn -/

/-- Where one part of a record is read, the record is read as the parts after it are. -/
theorem bind_of_read {first : Option α} {value : α} {next : α → Option β} {result : Option β}
    (read : first = some value) (rest : next value = result) : first >>= next = result := by
  rw [read]
  exact rest

/-! ## Numbers -/

namespace Datum

theorem uint16?_natural (value : UInt16) : uint16? (.natural value.toNat) = some value := by
  simp [uint16?, natural?, value.toNat_lt_size]

theorem uint32?_natural (value : UInt32) : uint32? (.natural value.toNat) = some value := by
  simp [uint32?, natural?, value.toNat_lt_size]

theorem uint64?_natural (value : UInt64) : uint64? (.natural value.toNat) = some value := by
  simp [uint64?, natural?, value.toNat_lt_size]

theorem bool?_bool (value : Bool) : bool? (.bool value) = some value :=
  rfl

end Datum

/-! ## Paths and approaches -/

/-- Whether the bytes of a path are text. -/
def Path.IsText (path : Path) : Prop :=
  ∃ text, path.bytes = Utf8.encode text

theorem Path.toDatum?_eq_some {path : Path} {datum : Datum} : path.toDatum? = some datum ↔
    ∃ text, path.bytes = Utf8.encode text ∧ datum = .text (String.ofList text) := by
  simp only [toDatum?, text?, Option.map_eq_some_iff, Utf8.decode?_eq_some, @eq_comm _ datum]

theorem Path.exists_toDatum? {path : Path} :
    (∃ datum, path.toDatum? = some datum) ↔ path.IsText := by
  simp only [toDatum?_eq_some, IsText]
  exact ⟨fun ⟨_, text, bytes, _⟩ => ⟨text, bytes⟩, fun ⟨text, bytes⟩ => ⟨_, text, bytes, rfl⟩⟩

theorem Path.ofDatum?_of_toDatum? {path : Path} {datum : Datum}
    (written : path.toDatum? = some datum) : Path.ofDatum? datum = some path := by
  obtain ⟨text, bytes, rfl⟩ := toDatum?_eq_some.mp written
  simp [ofDatum?, Datum.text?, ofString, Bytes.ofString, ← bytes]

theorem Path.nullable_of_toDatum? {path : Path} {datum : Datum}
    (written : path.toDatum? = some datum) :
    Slot.nullable Path.ofDatum? datum = some (some path) := by
  have read := Path.ofDatum?_of_toDatum? written
  obtain ⟨text, -, rfl⟩ := toDatum?_eq_some.mp written
  rw [Slot.nullable, read]
  · rfl
  · exact nofun

theorem Approach.ofDatum?_toDatum (dialect : Dialect) (approach : Approach) :
    Approach.ofDatum? dialect approach.toDatum = some approach :=
  ofName?_name approach

end Restripe
