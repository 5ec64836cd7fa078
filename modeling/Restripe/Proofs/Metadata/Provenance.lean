import Mathlib.Data.List.Nodup
import Restripe.Metadata.Provenance
import Restripe.Proofs.Outcome

/-!
# Looking up and building provenance tables

The keys of a table are all different, so an entry is found under its key exactly where the table
holds it.  A table that is built by inserting entries holds those entries and nothing else, and
building it succeeds where their keys are all different.
-/

namespace Restripe

open Outcome

namespace Entry

/-- Placing an entry of a new key adds it to the others. -/
theorem place_perm {entry : Entry} {entries : List Entry}
    (fresh : ∀ other ∈ entries, other.key ≠ entry.key) :
    (entry.place entries).Perm (entry :: entries) := by
  induction entries with
  | nil => exact .refl _
  | cons head tail ih =>
      have headFresh := fresh head (by simp)
      have tailFresh : ∀ other ∈ tail, other.key ≠ entry.key := fun other member =>
        fresh other (by simp [member])
      simp only [place]
      split
      · exact .refl _
      · rw [if_neg headFresh.symm]
        exact ((ih tailFresh).cons head).trans (.swap entry head tail)

end Entry

namespace ProvenanceTable

variable {table result : ProvenanceTable} {entry : Entry} {entries : List Entry} {key : BlockKey}

theorem keys_nodup (table : ProvenanceTable) : (table.entries.map Entry.key).Nodup := by
  refine List.pairwise_map.mpr (table.ascending.imp ?_)
  intro left right less same
  exact BlockKey.lt_irrefl _ (same ▸ less)

theorem eq_of_key_eq {left right : Entry} (leftMember : left ∈ table.entries)
    (rightMember : right ∈ table.entries) (same : left.key = right.key) : left = right :=
  List.inj_on_of_nodup_map table.keys_nodup leftMember rightMember same

theorem find?_eq_some : table.find? key = some entry ↔ entry ∈ table.entries ∧ entry.key = key := by
  constructor
  · intro found
    exact ⟨List.mem_of_find?_eq_some found, by simpa using List.find?_some found⟩
  · rintro ⟨member, rfl⟩
    obtain ⟨other, found⟩ : ∃ other, table.find? entry.key = some other :=
      Option.isSome_iff_exists.mp (List.find?_isSome.mpr ⟨entry, member, by simp⟩)
    have sameKey : other.key = entry.key := by simpa using List.find?_some found
    rw [found, eq_of_key_eq (List.mem_of_find?_eq_some found) member sameKey]

theorem contains_eq_true :
    table.contains key = true ↔ ∃ entry ∈ table.entries, entry.key = key := by
  simp only [contains, Option.isSome_iff_exists, find?_eq_some]

theorem contains_eq_false :
    table.contains key = false ↔ ∀ entry ∈ table.entries, entry.key ≠ key := by
  rw [← Bool.not_eq_true, contains_eq_true]
  simp

theorem insert_eq_ok :
    table.insert entry = .ok result ↔
      table.contains entry.key = false ∧ table.put entry = result := by
  unfold insert
  cases table.contains entry.key <;> simp

theorem put_perm (fresh : table.contains entry.key = false) :
    (table.put entry).entries.Perm (entry :: table.entries) :=
  Entry.place_perm (contains_eq_false.mp fresh)

/-- Inserting entries adds them all and nothing else. -/
theorem foldlM_insert_perm (success : entries.foldlM insert table = .ok result) :
    result.entries.Perm (table.entries ++ entries) := by
  induction entries generalizing table with
  | nil =>
      obtain rfl : table = result := by simpa using success
      simp
  | cons entry entries ih =>
      rw [List.foldlM_cons] at success
      obtain ⟨next, inserted, rest⟩ := bind_eq_ok.mp success
      obtain ⟨fresh, rfl⟩ := insert_eq_ok.mp inserted
      exact (ih rest).trans (((put_perm fresh).append_right entries).trans
        List.perm_middle.symm)

/-- Entries can be inserted where all keys are different. -/
theorem exists_foldlM_insert (distinct : ((table.entries ++ entries).map Entry.key).Nodup) :
    ∃ result, entries.foldlM insert table = .ok result := by
  induction entries generalizing table with
  | nil => exact ⟨table, rfl⟩
  | cons entry entries ih =>
      have moved : ((entry :: table.entries ++ entries).map Entry.key).Nodup :=
        (List.perm_middle.map Entry.key).nodup_iff.mp distinct
      have fresh : table.contains entry.key = false := by
        rw [contains_eq_false]
        intro other member same
        exact (List.nodup_cons.mp moved).1
          (List.mem_map.mpr ⟨other, List.mem_append_left _ member, same⟩)
      have putDistinct : (((table.put entry).entries ++ entries).map Entry.key).Nodup :=
        ((((put_perm fresh).append_right entries).map Entry.key).nodup_iff).mpr moved
      obtain ⟨result, rest⟩ := ih putDistinct
      exact ⟨result, by simp [insert_eq_ok.mpr ⟨fresh, rfl⟩, rest]⟩

theorem eq_of_perm {left right : ProvenanceTable} (same : left.entries.Perm right.entries) :
    left = right := by
  have entries : left.entries = right.entries := by
    refine same.eq_of_pairwise ?_ left.ascending right.ascending
    intro earlier later _ _ less greater
    exact absurd (BlockKey.lt_trans less greater) (BlockKey.lt_irrefl _)
  cases left
  cases right
  cases entries
  rfl

/-- Entries are inserted into an empty table where their keys are all different. -/
theorem foldlM_insert_eq_ok : entries.foldlM insert empty = .ok table ↔
    (entries.map Entry.key).Nodup ∧ entries.Perm table.entries := by
  constructor
  · intro inserted
    have same := foldlM_insert_perm inserted
    exact ⟨(same.map Entry.key).nodup_iff.mp table.keys_nodup, same.symm⟩
  · rintro ⟨distinct, same⟩
    obtain ⟨result, inserted⟩ : ∃ result, entries.foldlM insert empty = .ok result :=
      exists_foldlM_insert distinct
    rw [inserted, eq_of_perm ((foldlM_insert_perm inserted).trans same)]

theorem mem_of_foldlM_insert (success : entries.foldlM insert empty = .ok result) :
    entry ∈ result.entries ↔ entry ∈ entries := by
  simpa [empty] using (foldlM_insert_perm success).mem_iff

end ProvenanceTable

end Restripe
