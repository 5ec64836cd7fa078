import Restripe.Proofs.Epoch.Provenance
import Restripe.Proofs.Reconcile.Source

/-!
# Files over many transitions

Each transition starts from the table that the one before it has left.  However many there are, the
data blocks of the first stripes keep their files under the names they began with: the invariant is
that every one of these names belongs to just one data block.  As the names of the parity blocks are
others, no two blocks ever share a file.
-/

namespace Restripe

open Reconciliation

def Entry.fileName? (entry : Entry) : Option Bytes :=
  entry.location.path? >>= Path.fileName?

theorem Entry.fileName?_of_stored {entry : Entry} {path : Path}
    (stored : entry.location = .stored path) : entry.fileName? = path.fileName? := by
  simp [Entry.fileName?, stored, Location.path?]

/-- What a transition leaves to the next. -/
structure Generation where
  table : ProvenanceTable
  /-- Stripes in the table. -/
  stripes : Nat
  /-- Data blocks of every stripe. -/
  dataBlocks : Nat
  dataDirectory : Path

/-- The data blocks of a placement whose stripes have `dataBlocks` of them. -/
def Placement.originals (placement : Placement) (dataBlocks : Nat) : Set BlockKey :=
  {key | key.stripe.toNat < placement.length ∧ key.block.toNat < dataBlocks}

namespace Generation

/-- A generation follows another by a reconciliation that begins where the other has ended. -/
inductive Follows (generation : Generation) : Generation → Prop where
  | reconciled {available : Nat} {input : Reconciliation} {result : Reconciled}
      (before : input.before = generation.table)
      (dataBlocks : input.code.dataBefore.toNat = generation.dataBlocks)
      (stripes : input.cluster.stripes.toNat = generation.stripes)
      (unmanaged : input.managed = false)
      (success : reconcile available input = .ok result) :
      Follows generation {
        table := result.table
        stripes := generation.stripes /
          (input.code.dataAfter.toNat / input.code.dataBefore.toNat)
        dataBlocks := input.code.dataAfter.toNat
        dataDirectory := input.dataDirectory }

/-- The generations that come of a placement, by the number of transitions since. -/
inductive Descends (placement : Placement) (dataBlocks : Nat) : Nat → Generation → Prop where
  | first {parityBlocks : Nat} {dataDirectory : Path} {table : ProvenanceTable}
      (widths : ∀ nodes ∈ placement, nodes.length = dataBlocks + parityBlocks)
      (begun : initialProvenance dataDirectory placement = .ok table) :
      Descends placement dataBlocks 0 ⟨table, placement.length, dataBlocks, dataDirectory⟩
  | next {age : Nat} {generation successor : Generation}
      (descends : Descends placement dataBlocks age generation)
      (follows : generation.Follows successor) :
      Descends placement dataBlocks (age + 1) successor

/-- File name of a parity block.  In the first generation it is that of any other block. -/
def parityName : Nat → BlockKey → Bytes
  | 0 => initialBlockName
  | _ + 1 => parityBlockName

/-- The files of a generation are where they belong, and its data blocks have the names of the
original ones. -/
structure Sound (originals : Set BlockKey) (age : Nat) (generation : Generation) : Prop where
  stripe_lt : ∀ entry ∈ generation.table.entries, entry.key.stripe.toNat < generation.stripes
  stored : ∀ entry ∈ generation.table.entries, ∃ path, entry.location = .stored path ∧
    path.parent? = some (generation.dataDirectory.child (nodeDirectory entry.node))
  original : ∀ entry ∈ generation.table.entries,
    entry.key.block.toNat < generation.dataBlocks →
      ∃ origin ∈ originals, entry.fileName? = some (initialBlockName origin)
  kept : ∀ origin ∈ originals, ∃! entry, entry ∈ generation.table.entries ∧
    entry.key.block.toNat < generation.dataBlocks ∧
    entry.fileName? = some (initialBlockName origin)
  parity : ∀ entry ∈ generation.table.entries,
    generation.dataBlocks ≤ entry.key.block.toNat →
      entry.fileName? = some (parityName age entry.key)
  distinct : ∀ left ∈ generation.table.entries, ∀ right ∈ generation.table.entries,
    left.fileName? = right.fileName? → left = right

end Generation

/-! ## The first generation -/

section First

variable {dataDirectory : Path} {placement : Placement} {dataBlocks parityBlocks : Nat}
  {table : ProvenanceTable} {entry : Entry}

theorem Entry.Initial.fileName?_eq (initial : entry.Initial dataDirectory) :
    entry.fileName? = some (initialBlockName entry.key) :=
  (Entry.fileName?_of_stored initial).trans (fileName?_initialBlockPath _ _ _)

/-- Every original data block has its own entry in the table of a new epoch. -/
theorem exists_initial (widths : ∀ nodes ∈ placement, nodes.length = dataBlocks + parityBlocks)
    (begun : initialProvenance dataDirectory placement = .ok table) {origin : BlockKey}
    (isOriginal : origin ∈ placement.originals dataBlocks) :
    ∃ entry ∈ table.entries, entry.key = origin := by
  have held := (Placement.exists_holder? widths).mpr
    ⟨isOriginal.1, Nat.lt_add_right parityBlocks isOriginal.2⟩
  exact ProvenanceTable.contains_eq_true.mp ((contains_initialProvenance begun).mpr held)

theorem Generation.sound_first
    (widths : ∀ nodes ∈ placement, nodes.length = dataBlocks + parityBlocks)
    (begun : initialProvenance dataDirectory placement = .ok table) :
    Sound (placement.originals dataBlocks) 0
      ⟨table, placement.length, dataBlocks, dataDirectory⟩ := by
  have bounds : ∀ entry ∈ table.entries, entry.key.stripe.toNat < placement.length :=
    fun entry member => ((Placement.exists_holder? widths).mp
      ⟨entry.node, ((mem_initialProvenance begun).mp member).1⟩).1
  have names : ∀ entry ∈ table.entries, entry.fileName? = some (initialBlockName entry.key) :=
    fun entry member => ((mem_initialProvenance begun).mp member).2.fileName?_eq
  have distinct : ∀ left ∈ table.entries, ∀ right ∈ table.entries,
      left.fileName? = right.fileName? → left = right := by
    intro left leftMember right rightMember same
    rw [names left leftMember, names right rightMember, Option.some_inj] at same
    exact table.eq_of_key_eq leftMember rightMember (initialBlockName_injective same)
  constructor
  case stripe_lt => exact bounds
  case stored =>
    intro entry member
    exact ⟨_, ((mem_initialProvenance begun).mp member).2, parent?_initialBlockPath _ _ _⟩
  case original =>
    intro entry member isData
    exact ⟨entry.key, ⟨bounds entry member, isData⟩, names entry member⟩
  case kept =>
    intro origin isOriginal
    obtain ⟨entry, member, rfl⟩ := exists_initial widths begun isOriginal
    refine ⟨entry, ⟨member, isOriginal.2, names entry member⟩, ?_⟩
    rintro other ⟨otherMember, -, otherName⟩
    exact distinct other otherMember entry member (otherName.trans (names entry member).symm)
  case parity => exact fun entry member _ => names entry member
  case distinct => exact distinct

end First

/-! ## The next generation -/

section Next

variable {available : Nat} {input : Reconciliation} {result : Reconciled} {entry : Entry}

/-- Where all files are known, a data block takes the file name of its source along, and a parity
block has a file that is named for it. -/
theorem Reconciliation.Located.stored_cases (located : Located input entry)
    (unmanaged : input.managed = false)
    (known : ∀ before ∈ input.before.entries, ∃ path, before.location = .stored path) :
    (∃ before ∈ input.before.entries, ∃ name, entry.key.block < input.code.dataAfter ∧
      input.source? entry.key = some before.key ∧ before.fileName? = some name ∧
      Path.IsName name ∧
      entry.location = .stored (relocatedPath input.dataDirectory entry.node name)) ∨
    input.code.dataAfter ≤ entry.key.block ∧
      entry.location = .stored (parityBlockPath input.dataDirectory entry.node entry.key) := by
  cases located with
  | entrusted _ _ managed _ | announced _ managed _ =>
      rw [unmanaged] at managed
      contradiction
  | deferred _ _ _ recorded pending _ =>
      obtain ⟨path, stored⟩ := known _ (ProvenanceTable.find?_eq_some.mp recorded).1
      rw [stored] at pending
      contradiction
  | moved isData carried _ recorded stored named location =>
      obtain ⟨member, rfl⟩ := ProvenanceTable.find?_eq_some.mp recorded
      exact .inl ⟨_, member, _, isData, carried, (Entry.fileName?_of_stored stored).trans named,
        Path.isName_of_fileName? named, location⟩
  | minted isParity _ location => exact .inr ⟨isParity, location⟩

variable (success : reconcile available input = .ok result) (unmanaged : input.managed = false)
  (known : ∀ before ∈ input.before.entries, ∃ path, before.location = .stored path)

include success unmanaged known

theorem exists_stored_of_reconcile (member : entry ∈ result.table.entries) :
    ∃ path, entry.location = .stored path ∧
      path.parent? = some (input.dataDirectory.child (nodeDirectory entry.node)) := by
  have located := (located_of_reconcile success member).2
  rcases located.stored_cases unmanaged known with ⟨_, _, _, _, _, _, _, stored⟩ | ⟨_, stored⟩
  · exact ⟨_, stored, located.parent?_eq stored⟩
  · exact ⟨_, stored, located.parent?_eq stored⟩

theorem location_parity_of_reconcile (member : entry ∈ result.table.entries)
    (isParity : input.code.dataAfter ≤ entry.key.block) :
    entry.location = .stored (parityBlockPath input.dataDirectory entry.node entry.key) := by
  have located := (located_of_reconcile success member).2
  rcases located.stored_cases unmanaged known with ⟨_, _, _, isData, _⟩ | ⟨_, stored⟩
  · exact absurd isData (UInt16.not_lt.mpr isParity)
  · exact stored

theorem fileName?_parity_of_reconcile (member : entry ∈ result.table.entries)
    (isParity : input.code.dataAfter ≤ entry.key.block) :
    entry.fileName? = some (parityBlockName entry.key) := by
  have stored := location_parity_of_reconcile success unmanaged known member isParity
  exact (Entry.fileName?_of_stored stored).trans (fileName?_parityBlockPath _ _ _)

/-- A new data block has the file name of the old data block that it is carried over from. -/
theorem exists_before_of_reconcile (member : entry ∈ result.table.entries)
    (isData : entry.key.block < input.code.dataAfter) :
    ∃ before ∈ input.before.entries, before.key ∈ input.oldData ∧
      input.source? entry.key = some before.key ∧ before.fileName? = entry.fileName? := by
  obtain ⟨fanIn, checked⟩ := checked_of_reconcile success
  rcases (located_of_reconcile success member).2.stored_cases unmanaged known with
    ⟨before, beforeMember, name, _, carried, named, ordinary, stored⟩ | ⟨isParity, _⟩
  · refine ⟨before, beforeMember, checked.source?_mem_oldData carried, carried, ?_⟩
    rw [named, Entry.fileName?_of_stored stored, fileName?_relocatedPath _ _ ordinary]
  · exact absurd isData (UInt16.not_lt.mpr isParity)

/-- A file name that just one old data block has goes to just one new one. -/
theorem existsUnique_named_of_reconcile {name : Option Bytes}
    (once : ∃! before, before ∈ input.before.entries ∧ before.key ∈ input.oldData ∧
      before.fileName? = name) :
    ∃! entry, entry ∈ result.table.entries ∧ entry.key.block < input.code.dataAfter ∧
      entry.fileName? = name := by
  obtain ⟨before, ⟨beforeMember, isOld, named⟩, onlyBefore⟩ := once
  obtain ⟨entry, ⟨member, isData, found⟩, only⟩ := existsUnique_entry_of_reconcile success isOld
  refine ⟨entry, ⟨member, isData, ?_⟩, ?_⟩
  · obtain ⟨source, sourceMember, -, sourceFound, same⟩ :=
      exists_before_of_reconcile success unmanaged known member isData
    have keys : source.key = before.key := Option.some.inj (sourceFound.symm.trans found)
    obtain rfl := input.before.eq_of_key_eq sourceMember beforeMember keys
    exact same.symm.trans named
  · rintro other ⟨otherMember, otherData, otherNamed⟩
    obtain ⟨source, sourceMember, sourceOld, sourceFound, same⟩ :=
      exists_before_of_reconcile success unmanaged known otherMember otherData
    obtain rfl := onlyBefore source ⟨sourceMember, sourceOld, same.trans otherNamed⟩
    exact only other ⟨otherMember, otherData, sourceFound⟩

end Next

namespace Generation

variable {originals : Set BlockKey} {age : Nat} {generation successor : Generation}

/-- Blocks have different files where data blocks have original names, each once, and parity blocks
are named for themselves. -/
theorem distinct_of_names {table : ProvenanceTable} {dataBlocks : Nat}
    (original : ∀ entry ∈ table.entries, entry.key.block.toNat < dataBlocks →
      ∃ origin ∈ originals, entry.fileName? = some (initialBlockName origin))
    (kept : ∀ origin ∈ originals, ∃! entry, entry ∈ table.entries ∧
      entry.key.block.toNat < dataBlocks ∧ entry.fileName? = some (initialBlockName origin))
    (parity : ∀ entry ∈ table.entries, dataBlocks ≤ entry.key.block.toNat →
      entry.fileName? = some (parityBlockName entry.key))
    {left right : Entry} (leftMember : left ∈ table.entries) (rightMember : right ∈ table.entries)
    (same : left.fileName? = right.fileName?) : left = right := by
  rcases Nat.lt_or_ge left.key.block.toNat dataBlocks with leftData | leftParity
  · obtain ⟨origin, isOriginal, leftName⟩ := original left leftMember leftData
    rcases Nat.lt_or_ge right.key.block.toNat dataBlocks with rightData | rightParity
    · exact (kept origin isOriginal).unique ⟨leftMember, leftData, leftName⟩
        ⟨rightMember, rightData, same.symm.trans leftName⟩
    · rw [leftName, parity right rightMember rightParity, Option.some_inj] at same
      exact absurd same (initialBlockName_ne_parityBlockName _ _)
  · have leftName := parity left leftMember leftParity
    rcases Nat.lt_or_ge right.key.block.toNat dataBlocks with rightData | rightParity
    · obtain ⟨origin, -, rightName⟩ := original right rightMember rightData
      rw [leftName, rightName, Option.some_inj] at same
      exact absurd same.symm (initialBlockName_ne_parityBlockName _ _)
    · rw [leftName, parity right rightMember rightParity, Option.some_inj] at same
      exact table.eq_of_key_eq leftMember rightMember (parityBlockName_injective same)

theorem Sound.known (sound : Sound originals age generation) :
    ∀ entry ∈ generation.table.entries, ∃ path, entry.location = .stored path := by
  intro entry member
  obtain ⟨path, stored, -⟩ := sound.stored entry member
  exact ⟨path, stored⟩

section Step

variable {available : Nat} {input : Reconciliation} {result : Reconciled} {directory : Path}
  (sound : Sound originals age
    ⟨input.before, input.cluster.stripes.toNat, input.code.dataBefore.toNat, directory⟩)
  (unmanaged : input.managed = false) (success : reconcile available input = .ok result)

include sound unmanaged success

theorem Sound.original_of_reconcile {entry : Entry} (member : entry ∈ result.table.entries)
    (isData : entry.key.block.toNat < input.code.dataAfter.toNat) :
    ∃ origin ∈ originals, entry.fileName? = some (initialBlockName origin) := by
  obtain ⟨before, beforeMember, isOld, -, named⟩ := exists_before_of_reconcile success unmanaged
    sound.known member (UInt16.lt_iff_toNat_lt.mpr isData)
  rw [← named]
  exact sound.original before beforeMember isOld.2

theorem Sound.kept_of_reconcile {origin : BlockKey} (isOriginal : origin ∈ originals) :
    ∃! entry, entry ∈ result.table.entries ∧
      entry.key.block.toNat < input.code.dataAfter.toNat ∧
      entry.fileName? = some (initialBlockName origin) := by
  obtain ⟨before, ⟨member, isData, named⟩, only⟩ := sound.kept origin isOriginal
  have isOld : before.key ∈ input.oldData := ⟨sound.stripe_lt before member, isData⟩
  simp only [← UInt16.lt_iff_toNat_lt]
  apply existsUnique_named_of_reconcile success unmanaged sound.known
  refine ⟨before, ⟨member, isOld, named⟩, ?_⟩
  rintro other ⟨otherMember, otherOld, otherNamed⟩
  exact only other ⟨otherMember, otherOld.2, otherNamed⟩

/-- Whatever stripes a reconciliation groups together, the files of its table are where they belong,
and its data blocks have the original names. -/
theorem Sound.of_reconcile :
    Sound originals (age + 1) {
      table := result.table
      stripes := input.cluster.stripes.toNat /
        (input.code.dataAfter.toNat / input.code.dataBefore.toNat)
      dataBlocks := input.code.dataAfter.toNat
      dataDirectory := input.dataDirectory } := by
  have original : ∀ entry ∈ result.table.entries,
      entry.key.block.toNat < input.code.dataAfter.toNat →
        ∃ origin ∈ originals, entry.fileName? = some (initialBlockName origin) :=
    fun entry => sound.original_of_reconcile unmanaged success
  have kept : ∀ origin ∈ originals, ∃! entry, entry ∈ result.table.entries ∧
      entry.key.block.toNat < input.code.dataAfter.toNat ∧
      entry.fileName? = some (initialBlockName origin) :=
    fun origin => sound.kept_of_reconcile unmanaged success
  have parity : ∀ entry ∈ result.table.entries,
      input.code.dataAfter.toNat ≤ entry.key.block.toNat →
        entry.fileName? = some (parityBlockName entry.key) := by
    intro entry member isParity
    apply fileName?_parity_of_reconcile success unmanaged sound.known member
    exact UInt16.le_iff_toNat_le.mpr isParity
  constructor
  case stripe_lt =>
    intro entry member
    have recorded := ProvenanceTable.contains_eq_true.mpr ⟨entry, member, rfl⟩
    exact ((contains_of_reconcile success).mp recorded).1
  case stored =>
    intro entry member
    exact exists_stored_of_reconcile success unmanaged sound.known member
  case original => exact original
  case kept => exact kept
  case parity => exact parity
  case distinct =>
    intro left leftMember right rightMember
    exact distinct_of_names original kept parity leftMember rightMember

end Step

theorem Sound.next (sound : Sound originals age generation)
    (follows : generation.Follows successor) : Sound originals (age + 1) successor := by
  obtain ⟨before, stripeCount, dataCount, directory⟩ := generation
  cases follows with
  | reconciled before dataBlocks stripes unmanaged success =>
      simp only at before dataBlocks stripes
      subst before dataBlocks stripes
      exact sound.of_reconcile unmanaged success

theorem Descends.sound {placement : Placement} {dataBlocks : Nat}
    (descends : Descends placement dataBlocks age generation) :
    Sound (placement.originals dataBlocks) age generation := by
  induction descends with
  | first widths begun => exact sound_first widths begun
  | next _ follows ih => exact ih.next follows

/-- After any number of transitions every block has a file in the directory of its node.  The data
blocks have the names of the original ones, each name once, a parity block that a transition has
computed is named for itself, and no two blocks have the same path. -/
theorem Descends.keeps_files {placement : Placement} {dataBlocks : Nat}
    (descends : Descends placement dataBlocks age generation) :
    (∀ entry ∈ generation.table.entries, ∃ path, entry.location = .stored path ∧
      path.parent? = some (generation.dataDirectory.child (nodeDirectory entry.node)) ∧
      (entry.key.block.toNat < generation.dataBlocks →
        ∃ origin ∈ placement.originals dataBlocks,
          path.fileName? = some (initialBlockName origin)) ∧
      (generation.dataBlocks ≤ entry.key.block.toNat → 0 < age →
        path.fileName? = some (parityBlockName entry.key))) ∧
    (∀ origin ∈ placement.originals dataBlocks, ∃! entry, entry ∈ generation.table.entries ∧
      entry.key.block.toNat < generation.dataBlocks ∧
      entry.fileName? = some (initialBlockName origin)) ∧
    ∀ left ∈ generation.table.entries, ∀ right ∈ generation.table.entries,
      ∀ leftPath rightPath, left.location = .stored leftPath → right.location = .stored rightPath →
        leftPath.components = rightPath.components → left = right := by
  have sound := descends.sound
  refine ⟨?_, sound.kept, ?_⟩
  · intro entry member
    obtain ⟨path, stored, parent⟩ := sound.stored entry member
    have name := Entry.fileName?_of_stored stored
    refine ⟨path, stored, parent, ?_, ?_⟩
    · intro isData
      rw [← name]
      exact sound.original entry member isData
    · intro isParity aged
      obtain ⟨before, rfl⟩ := Nat.exists_eq_succ_of_ne_zero (Nat.ne_of_gt aged)
      rw [← name]
      exact sound.parity entry member isParity
  · intro left leftMember right rightMember leftPath rightPath leftStored rightStored same
    refine sound.distinct left leftMember right rightMember ?_
    rw [Entry.fileName?_of_stored leftStored, Entry.fileName?_of_stored rightStored]
    exact Path.fileName?_congr same

theorem Descends.keeps_files_swapped :
    ∃ generation, Descends [[0, 1], [1, 2]] 1 1 generation ∧ generation.dataBlocks = 2 ∧
      ∀ origin ∈ Placement.originals [[0, 1], [1, 2]] 1, ∃! entry,
        entry ∈ generation.table.entries ∧ entry.key.block.toNat < generation.dataBlocks ∧
        entry.fileName? = some (initialBlockName origin) := by
  obtain ⟨result, success⟩ := Outcome.exists_eq_ok
    (initialProvenance ⟨[100]⟩ [[0, 1], [1, 2]] >>= fun table =>
      reconcile 1 { swapped with before := table }) (by decide)
  obtain ⟨table, begun, reconciled⟩ := Outcome.bind_eq_ok.mp success
  have widths : ∀ nodes ∈ ([[0, 1], [1, 2]] : Placement), nodes.length = 1 + 1 := by decide
  have descends := (Descends.first widths begun).next (.reconciled rfl rfl rfl rfl reconciled)
  exact ⟨_, descends, rfl, descends.keeps_files.2.1⟩

end Generation

end Restripe
