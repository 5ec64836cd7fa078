import Restripe.Proofs.FileSystem.Address
import Restripe.Proofs.Lineage

/-!
# Files that different blocks share

A file that is carried over keeps its name alone, and the directory that it came from is forgotten.
So two data blocks that go to one node get the same file just where their old files have the same
name, however far apart these lie.
-/

namespace Restripe

theorem relocatedPath_components_inj {dataDirectory : Path} {leftNode rightNode : NodeId}
    {left right : Bytes} (leftOrdinary : Path.IsName left) (rightOrdinary : Path.IsName right) :
    (relocatedPath dataDirectory leftNode left).components =
        (relocatedPath dataDirectory rightNode right).components ↔
      left = right ∧ leftNode = rightNode := by
  have steps (node : NodeId) {name : Bytes} (ordinary : Path.IsName name) :
      (relocatedPath dataDirectory node name).components = dataDirectory.components ++
        [.named (Bytes.ofString (nodeDirectory node)), .named name] := by
    have inDirectory := Path.components_join dataDirectory (isName_nodeDirectory node)
    have inNode := Path.components_join (dataDirectory.child (nodeDirectory node)) ordinary
    rw [Path.child, Path.ofString] at inNode
    rw [inDirectory, List.append_assoc] at inNode
    exact inNode
  constructor
  · intro same
    rw [steps leftNode leftOrdinary, steps rightNode rightOrdinary,
      List.append_cancel_left_eq] at same
    simp only [List.cons.injEq, Component.named.injEq, and_true] at same
    exact ⟨same.2, nodeDirectory_injective same.1⟩
  · rintro ⟨rfl, rfl⟩
    rfl

/-- No two blocks are in the same file: files are the same where their paths take the same
steps. -/
def ProvenanceTable.FilesDistinct (table : ProvenanceTable) : Prop :=
  ∀ left ∈ table.entries, ∀ right ∈ table.entries, ∀ leftPath rightPath,
    left.location = .stored leftPath → right.location = .stored rightPath →
      leftPath.components = rightPath.components → left = right

namespace Reconciliation

/-- The file name that a data block of a new stripe is carried over with. -/
def carriedName? (input : Reconciliation) (key : BlockKey) : Option Bytes :=
  if input.managed then none
  else input.source? key >>= input.before.find? >>= Entry.fileName?

/-- No two data blocks are carried to one node with the same name. -/
def NamesApart (input : Reconciliation) : Prop :=
  ∀ left ∈ input.newData, ∀ right ∈ input.newData, ∀ name,
    input.placement.holder? left = input.placement.holder? right →
      input.carriedName? left = some name → input.carriedName? right = some name → left = right

/-- No data block is carried to the node of a parity block with the name of that block. -/
def SparesParity (input : Reconciliation) : Prop :=
  ∀ data ∈ input.newData, ∀ parity : BlockKey, input.code.dataAfter ≤ parity.block →
    input.placement.holder? data = input.placement.holder? parity →
      input.carriedName? data ≠ some (parityBlockName parity)

variable {input : Reconciliation} {key source : BlockKey} {before entry : Entry} {path : Path}
  {name : Bytes}

theorem carriedName?_eq (unmanaged : input.managed = false)
    (carried : input.source? key = some source)
    (recorded : input.before.find? source = some before) :
    input.carriedName? key = before.fileName? := by
  simp [carriedName?, unmanaged, carried, recorded]

/-- The file of a new block is named in the directory of its node: for the file that a data block
was, or for the parity block itself. -/
theorem Located.exists_name (located : Located input entry)
    (stored : entry.location = .stored path) :
    ∃ name, Path.IsName name ∧ path = relocatedPath input.dataDirectory entry.node name ∧
      (entry.key.block < input.code.dataAfter ∧ input.carriedName? entry.key = some name ∨
        input.code.dataAfter ≤ entry.key.block ∧ name = parityBlockName entry.key) := by
  cases located with
  | entrusted _ _ _ location | deferred _ _ _ _ _ location | announced _ _ location =>
      rw [location] at stored
      cases stored
  | moved isData carried unmanaged recorded oldStored named location =>
      obtain rfl := Location.stored.inj (location.symm.trans stored)
      refine ⟨_, Path.isName_of_fileName? named, rfl, .inl ⟨isData, ?_⟩⟩
      rw [carriedName?_eq unmanaged carried recorded, Entry.fileName?_of_stored oldStored, named]
  | minted isParity _ location =>
      obtain rfl := Location.stored.inj (location.symm.trans stored)
      exact ⟨_, isName_parityBlockName _, rfl, .inr ⟨isParity, rfl⟩⟩

theorem Located.location_of_carriedName? (located : Located input entry)
    (isData : entry.key.block < input.code.dataAfter)
    (carries : input.carriedName? entry.key = some name) :
    entry.location = .stored (relocatedPath input.dataDirectory entry.node name) := by
  have notParity := UInt16.not_le.mpr isData
  cases located with
  | entrusted _ _ managed _ => simp [carriedName?, managed] at carries
  | deferred _ carried unmanaged recorded pending _ =>
      rw [carriedName?_eq unmanaged carried recorded] at carries
      simp [Entry.fileName?, Location.path?, pending] at carries
  | moved _ carried unmanaged recorded oldStored named location =>
      rw [carriedName?_eq unmanaged carried recorded, Entry.fileName?_of_stored oldStored,
        named] at carries
      rw [location, Option.some.inj carries]
  | announced isParity _ _ => exact absurd isParity notParity
  | minted isParity _ _ => exact absurd isParity notParity

end Reconciliation

open Reconciliation

variable {available : Nat} {input : Reconciliation} {result : Reconciled}

theorem namesApart_of_filesDistinct (success : reconcile available input = .ok result)
    (distinct : result.table.FilesDistinct) : input.NamesApart := by
  intro left leftNew right rightNew name holders leftCarries rightCarries
  have recorded {key : BlockKey} (isNew : key ∈ input.newData) :
      ∃ entry ∈ result.table.entries, entry.key = key :=
    ProvenanceTable.contains_eq_true.mp
      ((contains_of_reconcile success).mpr ⟨isNew.1, Nat.lt_add_right _ isNew.2⟩)
  obtain ⟨leftEntry, leftMember, rfl⟩ := recorded leftNew
  obtain ⟨rightEntry, rightMember, rfl⟩ := recorded rightNew
  obtain ⟨leftHolder, leftLocated⟩ := located_of_reconcile success leftMember
  obtain ⟨rightHolder, rightLocated⟩ := located_of_reconcile success rightMember
  have nodes : leftEntry.node = rightEntry.node :=
    Option.some.inj (leftHolder.symm.trans (holders.trans rightHolder))
  have leftStored := leftLocated.location_of_carriedName?
    ((mem_newData_of_reconcile success leftMember).mp leftNew) leftCarries
  have rightStored := rightLocated.location_of_carriedName?
    ((mem_newData_of_reconcile success rightMember).mp rightNew) rightCarries
  rw [nodes] at leftStored
  rw [distinct leftEntry leftMember rightEntry rightMember _ _ leftStored rightStored rfl]

theorem filesDistinct_of_namesApart (success : reconcile available input = .ok result)
    (unminted : input.SparesParity) (apart : input.NamesApart) : result.table.FilesDistinct := by
  intro left leftMember right rightMember leftPath rightPath leftStored rightStored same
  obtain ⟨leftHolder, leftLocated⟩ := located_of_reconcile success leftMember
  obtain ⟨rightHolder, rightLocated⟩ := located_of_reconcile success rightMember
  obtain ⟨leftName, leftOrdinary, rfl, leftOrigin⟩ := leftLocated.exists_name leftStored
  obtain ⟨rightName, rightOrdinary, rfl, rightOrigin⟩ := rightLocated.exists_name rightStored
  obtain ⟨rfl, nodes⟩ := (relocatedPath_components_inj leftOrdinary rightOrdinary).mp same
  have holders : input.placement.holder? left.key = input.placement.holder? right.key := by
    rw [leftHolder, rightHolder, nodes]
  refine result.table.eq_of_key_eq leftMember rightMember ?_
  rcases leftOrigin with ⟨leftData, leftCarries⟩ | ⟨leftParity, leftMinted⟩
  · have leftNew := (mem_newData_of_reconcile success leftMember).mpr leftData
    rcases rightOrigin with ⟨rightData, rightCarries⟩ | ⟨rightParity, rightMinted⟩
    · have rightNew := (mem_newData_of_reconcile success rightMember).mpr rightData
      exact apart _ leftNew _ rightNew _ holders leftCarries rightCarries
    · exact absurd (rightMinted ▸ leftCarries) (unminted _ leftNew _ rightParity holders)
  · rcases rightOrigin with ⟨rightData, rightCarries⟩ | ⟨-, rightMinted⟩
    · have rightNew := (mem_newData_of_reconcile success rightMember).mpr rightData
      exact absurd (leftMinted ▸ rightCarries) (unminted _ rightNew _ leftParity holders.symm)
    · exact parityBlockName_injective (leftMinted.symm.trans rightMinted)

/-- As long as no data block is carried over with the name of a parity block on its node, different
blocks have different files just where different data blocks on one node are carried over with
different names. -/
theorem reconcile_files_distinct_iff (success : reconcile available input = .ok result)
    (unminted : input.SparesParity) : result.table.FilesDistinct ↔ input.NamesApart :=
  ⟨namesApart_of_filesDistinct success, filesDistinct_of_namesApart success unminted⟩

theorem eq_of_mem_newData_swapped {key : BlockKey} (isNew : key ∈ swapped.newData) :
    key = ⟨0, 0⟩ ∨ key = ⟨0, 1⟩ := by
  obtain ⟨stripeBound, blockBound⟩ := isNew
  have stripe : key.stripe.toNat < 1 := stripeBound
  have block : key.block.toNat < 2 := blockBound
  rcases Nat.lt_or_ge key.block.toNat 1 with first | second
  · exact .inl (BlockKey.eq_of_toNat_eq (by simp; omega) (by simp; omega))
  · exact .inr (BlockKey.eq_of_toNat_eq (by simp; omega) (by simp; omega))

/-- The files `d/a` and `d/b` are carried over with their names, of which neither is that of a
parity block. -/
theorem reconcile_files_distinct_iff_swapped :
    ∃ result, reconcile 1 swapped = .ok result ∧ swapped.SparesParity ∧
      result.table.FilesDistinct := by
  obtain ⟨result, success⟩ := Outcome.exists_eq_ok (reconcile 1 swapped) (by decide)
  have unminted : swapped.SparesParity := by
    intro data isNew parity _ _ carries
    have leading : (parityBlockName parity).head? = some 0x70 := by
      rw [parityBlockName_eq]
      rfl
    have short : swapped.carriedName? data = some [0x62] ∨
        swapped.carriedName? data = some [0x61] := by
      rcases eq_of_mem_newData_swapped isNew with rfl | rfl
      · exact .inl (by decide)
      · exact .inr (by decide)
    rcases short with isB | isA
    · rw [← Option.some.inj (isB.symm.trans carries)] at leading
      exact absurd leading (by decide)
    · rw [← Option.some.inj (isA.symm.trans carries)] at leading
      exact absurd leading (by decide)
  have apart : swapped.NamesApart := by
    intro left leftNew right rightNew name holders _ _
    rcases eq_of_mem_newData_swapped leftNew with rfl | rfl <;>
      rcases eq_of_mem_newData_swapped rightNew with rfl | rfl
    · rfl
    · exact absurd holders (by decide)
    · exact absurd holders (by decide)
    · rfl
  exact ⟨result, success, unminted, (reconcile_files_distinct_iff success unminted).mpr apart⟩

/-- Two data blocks whose files have one name in different directories go to one node. -/
def namesakes : Reconciliation where
  code := ⟨1, 1, 1, 1⟩
  cluster := ⟨2, 2⟩
  before := .ofList [⟨⟨0, 0⟩, 0, .stored (.ofString "x/a")⟩,
    ⟨⟨1, 0⟩, 1, .stored (.ofString "y/a")⟩]
  placement := [[0, 1], [0, 1]]
  groups := [⟨[0], .parityMerge, [0, 1]⟩, ⟨[1], .parityMerge, [0, 1]⟩]
  dataDirectory := .ofString "d"
  managed := false
  workers := 1

theorem files_shared_of_namesakes :
    namesakes.before.FilesDistinct ∧
    ∃ result, reconcile 1 namesakes = .ok result ∧ ¬result.table.FilesDistinct := by
  obtain ⟨result, success⟩ := Outcome.exists_eq_ok (reconcile 1 namesakes) (by decide)
  refine ⟨?_, result, success, fun distinct => ?_⟩
  · have entries : namesakes.before.entries = [⟨⟨0, 0⟩, 0, .stored (.ofString "x/a")⟩,
        ⟨⟨1, 0⟩, 1, .stored (.ofString "y/a")⟩] := rfl
    intro left leftMember right rightMember leftPath rightPath leftStored rightStored same
    simp only [entries, List.mem_cons, List.not_mem_nil, or_false] at leftMember rightMember
    rcases leftMember with rfl | rfl <;> rcases rightMember with rfl | rfl <;>
      cases leftStored <;> cases rightStored
    · rfl
    · exact absurd same (by decide)
    · exact absurd same (by decide)
    · rfl
  · have first : ⟨0, 0⟩ ∈ namesakes.newData := by simp [newData, namesakes]
    have second : ⟨1, 0⟩ ∈ namesakes.newData := by simp [newData, namesakes]
    have same := namesApart_of_filesDistinct success distinct _ first _ second (Bytes.ofString "a")
      rfl (by decide) (by decide)
    exact absurd same (by decide)

/-!
## Files of new parity blocks

A transition names the file of a new parity block for the block alone, and the number of the
transition is no part of the name.  So the name is unlike those of the first generation and those of
all data blocks, but a parity block that an earlier transition has computed has the same file where
it has the same key and the same node.
-/

theorem parityBlockPath_components_inj {dataDirectory : Path} {leftNode rightNode : NodeId}
    {left right : BlockKey} :
    (parityBlockPath dataDirectory leftNode left).components =
        (parityBlockPath dataDirectory rightNode right).components ↔
      left = right ∧ leftNode = rightNode := by
  have names : parityBlockName left = parityBlockName right ↔ left = right :=
    ⟨parityBlockName_injective, congrArg parityBlockName⟩
  rw [← names]
  exact relocatedPath_components_inj (isName_parityBlockName left) (isName_parityBlockName right)

namespace Generation

variable {placement : Placement} {originals : Set BlockKey} {dataBlocks age : Nat}
  {generation successor : Generation} {old new : Entry}

/-- The parity blocks of a generation that another one precedes lie where they were computed. -/
theorem Sound.location_parity (sound : Sound originals age generation)
    (follows : generation.Follows successor) (member : new ∈ successor.table.entries)
    (isParity : successor.dataBlocks ≤ new.key.block.toNat) :
    new.location = .stored (parityBlockPath successor.dataDirectory new.node new.key) := by
  cases follows with
  | reconciled before dataBlocks stripes unmanaged success =>
      apply location_parity_of_reconcile success unmanaged (before ▸ sound.known) member
      exact UInt16.le_iff_toNat_le.mpr isParity

theorem Descends.location_parity (descends : Descends placement dataBlocks age generation)
    (aged : 0 < age) (member : old ∈ generation.table.entries)
    (isParity : generation.dataBlocks ≤ old.key.block.toNat) :
    old.location = .stored (parityBlockPath generation.dataDirectory old.node old.key) := by
  cases descends with
  | first _ _ => exact absurd aged (Nat.lt_irrefl 0)
  | next before follows => exact before.sound.location_parity follows member isParity

/-- No block of the first generation and no data block is named like a computed parity block. -/
theorem Sound.fileName?_ne (sound : Sound originals age generation)
    (member : old ∈ generation.table.entries)
    (uncomputed : age = 0 ∨ old.key.block.toNat < generation.dataBlocks) (key : BlockKey) :
    old.fileName? ≠ some (parityBlockName key) := by
  rcases Nat.lt_or_ge old.key.block.toNat generation.dataBlocks with isData | isParity
  · obtain ⟨origin, -, named⟩ := sound.original old member isData
    rw [named, Ne, Option.some_inj]
    exact initialBlockName_ne_parityBlockName _ _
  · rcases uncomputed with rfl | isData
    · rw [sound.parity old member isParity, Ne, Option.some_inj]
      exact initialBlockName_ne_parityBlockName _ _
    · exact absurd isData (Nat.not_lt.mpr isParity)

/-- In a chain of transitions a new parity block gets the file of an old block in just one case: an
earlier transition has computed the old block, as a parity block with the same key on the same
node. -/
theorem Descends.parity_file_taken_iff (descends : Descends placement dataBlocks age generation)
    (follows : generation.Follows successor)
    (sameDirectory : successor.dataDirectory = generation.dataDirectory)
    (oldMember : old ∈ generation.table.entries) (newMember : new ∈ successor.table.entries)
    (isParity : successor.dataBlocks ≤ new.key.block.toNat) {oldPath newPath : Path}
    (oldStored : old.location = .stored oldPath) (newStored : new.location = .stored newPath) :
    newPath.components = oldPath.components ↔
      0 < age ∧ generation.dataBlocks ≤ old.key.block.toNat ∧ old.key = new.key ∧
        old.node = new.node := by
  have sound := descends.sound
  have minted := sound.location_parity follows newMember isParity
  obtain rfl := Location.stored.inj (newStored.symm.trans minted)
  by_cases computed : 0 < age ∧ generation.dataBlocks ≤ old.key.block.toNat
  case pos =>
    have kept := descends.location_parity computed.1 oldMember computed.2
    obtain rfl := Location.stored.inj (oldStored.symm.trans kept)
    rw [sameDirectory, parityBlockPath_components_inj]
    simp [computed, eq_comm]
  case neg =>
    have uncomputed : age = 0 ∨ old.key.block.toNat < generation.dataBlocks := by omega
    have unlike := sound.fileName?_ne oldMember uncomputed new.key
    rw [Entry.fileName?_of_stored oldStored] at unlike
    constructor
    · intro same
      exact absurd ((Path.fileName?_congr same).symm.trans (fileName?_parityBlockPath _ _ _)) unlike
    · rintro ⟨aged, isOldParity, -⟩
      exact absurd ⟨aged, isOldParity⟩ computed

/-- One stripe of one data block stays where it is. -/
def steady (before : ProvenanceTable) : Reconciliation where
  code := ⟨1, 1, 1, 1⟩
  cluster := ⟨2, 1⟩
  before := before
  placement := [[0, 1]]
  groups := [⟨[0], .parityMerge, [0, 1]⟩]
  dataDirectory := ⟨[100]⟩
  managed := false
  workers := 1

section Steady

variable {table : ProvenanceTable} {first second : Reconciled}

theorem exists_steady :
    ∃ table first second, initialProvenance ⟨[100]⟩ [[0, 1]] = .ok table ∧
      reconcile 1 (steady table) = .ok first ∧ reconcile 1 (steady first.table) = .ok second := by
  obtain ⟨second, success⟩ := Outcome.exists_eq_ok
    (initialProvenance ⟨[100]⟩ [[0, 1]] >>= fun table =>
      reconcile 1 (steady table) >>= fun first => reconcile 1 (steady first.table)) (by decide)
  obtain ⟨table, begun, rest⟩ := Outcome.bind_eq_ok.mp success
  obtain ⟨first, reconciled, again⟩ := Outcome.bind_eq_ok.mp rest
  exact ⟨table, first, second, begun, reconciled, again⟩

theorem follows_steady (success : reconcile 1 (steady table) = .ok first) :
    Follows ⟨table, 1, 1, ⟨[100]⟩⟩ ⟨first.table, 1, 1, ⟨[100]⟩⟩ := by
  simpa [steady] using @Follows.reconciled ⟨table, 1, 1, ⟨[100]⟩⟩ 1 _ _ rfl rfl rfl rfl success

theorem descends_steady (begun : initialProvenance ⟨[100]⟩ [[0, 1]] = .ok table)
    (success : reconcile 1 (steady table) = .ok first) :
    Descends [[0, 1]] 1 1 ⟨first.table, 1, 1, ⟨[100]⟩⟩ := by
  have widths : ∀ nodes ∈ ([[0, 1]] : Placement), nodes.length = 1 + 1 := by decide
  exact (Descends.first widths begun).next (follows_steady success)

theorem exists_parity_steady (success : reconcile 1 (steady table) = .ok first) :
    ∃ entry ∈ first.table.entries, entry.key = ⟨0, 1⟩ ∧ entry.node = 1 := by
  have recorded : first.table.contains ⟨0, 1⟩ = true :=
    (contains_of_reconcile success).mpr (by simp [steady])
  obtain ⟨entry, member, key⟩ := ProvenanceTable.contains_eq_true.mp recorded
  have holder := (located_of_reconcile success member).1
  rw [key] at holder
  exact ⟨entry, member, key, (Option.some.inj holder).symm⟩

theorem Descends.parity_file_taken_iff_steady :
    ∃ generation successor, Descends [[0, 1]] 1 1 generation ∧ generation.Follows successor ∧
      ∃ old ∈ generation.table.entries, ∃ new ∈ successor.table.entries, ∃ oldPath newPath,
        old.location = .stored oldPath ∧ new.location = .stored newPath ∧
        newPath.components = oldPath.components := by
  obtain ⟨table, first, second, begun, reconciled, again⟩ := exists_steady
  have descends := descends_steady begun reconciled
  have follows := follows_steady again
  obtain ⟨old, oldMember, oldKey, oldNode⟩ := exists_parity_steady reconciled
  obtain ⟨new, newMember, newKey, newNode⟩ := exists_parity_steady again
  obtain ⟨oldPath, oldStored⟩ := descends.sound.known old oldMember
  obtain ⟨newPath, newStored⟩ := (descends.sound.next follows).known new newMember
  have oldParity : 1 ≤ old.key.block.toNat := by simp [oldKey]
  have newParity : 1 ≤ new.key.block.toNat := by simp [newKey]
  refine ⟨_, _, descends, follows, old, oldMember, new, newMember, oldPath, newPath, oldStored,
    newStored, ?_⟩
  exact (descends.parity_file_taken_iff follows rfl oldMember newMember newParity oldStored
    newStored).mpr ⟨Nat.one_pos, oldParity, oldKey.trans newKey.symm, oldNode.trans newNode.symm⟩

/-- The second transition of the stripe gives its parity block the file that the first has given
it. -/
theorem parity_file_taken_again :
    ∃ table first second, initialProvenance ⟨[100]⟩ [[0, 1]] = .ok table ∧
      reconcile 1 (steady table) = .ok first ∧ reconcile 1 (steady first.table) = .ok second ∧
      ∃ old ∈ first.table.entries, ∃ new ∈ second.table.entries, ∃ path,
        1 ≤ new.key.block ∧ new.location = .stored path ∧ old.location = .stored path := by
  obtain ⟨table, first, second, begun, reconciled, again⟩ := exists_steady
  have descends := descends_steady begun reconciled
  obtain ⟨old, oldMember, oldKey, oldNode⟩ := exists_parity_steady reconciled
  obtain ⟨new, newMember, newKey, newNode⟩ := exists_parity_steady again
  have oldStored := descends.location_parity Nat.one_pos oldMember (by simp [oldKey])
  have newStored := descends.sound.location_parity (follows_steady again) newMember
    (by simp [newKey])
  refine ⟨table, first, second, begun, reconciled, again, old, oldMember, new, newMember, _, ?_,
    newStored, ?_⟩
  · simp [newKey]
  · rw [oldStored, oldKey, oldNode, newKey, newNode]

end Steady

end Generation

end Restripe
