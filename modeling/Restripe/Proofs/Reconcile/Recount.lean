import Restripe.Proofs.Reconcile.Distinct
import Restripe.Proofs.Reconcile.Failure
import Restripe.Proofs.Reconcile.Planned

/-!
# The statistics are a recount of the table

The counters of a reconciliation can be worked out anew from its input and its table, whichever
blocks have files and whichever wait for an outside catalog.  Where every old file lies in the
directory of its node, the retained blocks are those whose path stays the same: a path changes with
the node, and with nothing else.
-/

namespace Restripe

open Outcome Reconciliation

/-! ## What is counted anew -/

namespace Reconciliation

def newStripes (input : Reconciliation) : Nat :=
  input.cluster.stripes.toNat / (input.code.dataAfter.toNat / input.code.dataBefore.toNat)

/-- Every block of the table before has a file, which lies in the directory of the node of the block
under an ordinary name, as far as a view of paths can tell. -/
def Settled {α : Type} (input : Reconciliation) (view : Path → α) : Prop :=
  ∀ entry ∈ input.before.entries, ∃ path name, entry.location = .stored path ∧
    Path.IsName name ∧ view path = view (relocatedPath input.dataDirectory entry.node name)

/-- Whether an entry is of a data block that has the path its source had, as far as a view of paths
can tell. -/
def keepsPath {α : Type} [DecidableEq α] (input : Reconciliation) (view : Path → α)
    (entry : Entry) : Bool :=
  match entry.location, input.source? entry.key >>= input.before.find? with
  | .stored path, some before =>
      decide (entry.key.block < input.code.dataAfter) &&
        before.location.path?.any fun old => view path = view old
  | _, _ => false

end Reconciliation

/-- The statistics of a reconciliation hold what its table says. -/
structure Recounts (input : Reconciliation) (result : Reconciled) : Prop where
  reEncoded : result.stats.reEncoded.toNat =
    input.groups.countP fun group => group.method = .reEncode
  parityMerged : result.stats.parityMerged.toNat =
    input.groups.countP fun group => group.method = .parityMerge
  stripes : result.stats.reEncoded.toNat + result.stats.parityMerged.toNat = input.newStripes
  minted : result.stats.minted.toNat = input.newStripes * input.code.parityAfter.toNat
  deferred : result.stats.deferred.toNat =
    result.table.entries.countP fun entry => entry.location.isPending
  managed : input.managed = true →
    result.stats.retained.toNat = 0 ∧ result.stats.relocated.toNat = 0
  data : input.managed = false → result.stats.retained.toNat + result.stats.relocated.toNat =
    input.newStripes * input.code.dataAfter.toNat
  carried : input.newStripes * input.code.dataAfter.toNat =
    input.cluster.stripes.toNat * input.code.dataBefore.toNat
  retained : result.stats.retained.toNat =
    result.table.entries.countP fun entry => input.retains entry.key entry.node
  /-- Paths are compared byte by byte. -/
  keptBytes : input.Settled Path.bytes → result.stats.retained.toNat =
    result.table.entries.countP (input.keepsPath Path.bytes)
  /-- Paths are compared by the steps that they take. -/
  keptSteps : input.Settled Path.components → result.stats.retained.toNat =
    result.table.entries.countP (input.keepsPath Path.components)

/-! ## Counting the blocks of a placement -/

theorem Placement.countP_rowKeys (stripe data : Nat) {width : Nat} (fits : width ≤ UInt16.size) :
    (rowKeys stripe width).countP (fun key => key.block.toNat < data) = min width data := by
  induction width with
  | zero => simp [rowKeys]
  | succ width ih =>
      have last := BlockKey.toNat_block_ofIndices stripe (Nat.lt_of_succ_le fits)
      have before := ih (Nat.le_of_succ_le fits)
      rw [rowKeys] at before ⊢
      rw [List.range_succ, List.map_append, List.countP_append, before, List.map_singleton,
        List.countP_singleton, last]
      by_cases isData : width < data
      · rw [if_pos (decide_eq_true isData)]
        omega
      · rw [if_neg (by simpa using isData)]
        omega

theorem Placement.countP_keys {placement : Placement} {data width : Nat}
    (widths : ∀ nodes ∈ placement, nodes.length = width) (fits : width ≤ UInt16.size) :
    placement.keys.countP (fun key => key.block.toNat < data) =
      placement.length * min width data := by
  have rows : (placement.zipIdx.map fun place => (rowKeys place.2 place.1.length).countP
      fun key => key.block.toNat < data) = placement.zipIdx.map fun _ => min width data := by
    apply List.map_congr_left
    intro place member
    have inPlacement := List.mem_of_getElem? (List.mk_mem_zipIdx_iff_getElem?.mp member)
    rw [widths place.1 inPlacement, countP_rowKeys place.2 data fits]
  rw [keys, List.countP_flatMap]
  simp only [Function.comp_def, rows, List.map_const', List.sum_replicate_nat,
    List.length_zipIdx]

variable {available : Nat} {input : Reconciliation} {result : Reconciled}

/-! ## Counting the entries of the table -/

section Table

variable (success : reconcile available input = .ok result)

include success

theorem countP_data_of_reconcile :
    (result.table.entries.countP fun entry => entry.key.block < input.code.dataAfter) =
      input.newStripes * input.code.dataAfter.toNat := by
  obtain ⟨fanIn, checked⟩ := checked_of_reconcile success
  have whole := checked.admits.toWhole
  have width := whole.widthAfter_eq
  have counted := (keys_of_reconcile success).countP_eq
    fun key => key.block.toNat < input.code.dataAfter.toNat
  rw [List.countP_map, Placement.countP_keys (fun _ => checked.length_row)
    (Nat.le_of_lt input.code.widthAfter.toNat_lt), width, Nat.min_eq_right (Nat.le_add_right _ _),
    checked.length_placement, whole.fanIn_eq] at counted
  simpa only [Function.comp_def, ← UInt16.lt_iff_toNat_lt, newStripes] using counted

theorem countP_parity_of_reconcile :
    (result.table.entries.countP fun entry => input.code.dataAfter ≤ entry.key.block) =
      input.newStripes * input.code.parityAfter.toNat := by
  have parted := List.length_eq_countP_add_countP
    (fun entry : Entry => decide (entry.key.block < input.code.dataAfter))
    (l := result.table.entries)
  have whole : result.table.entries.length = input.newStripes *
      (input.code.dataAfter.toNat + input.code.parityAfter.toNat) := size_of_reconcile success
  rw [whole, countP_data_of_reconcile success, Nat.mul_add] at parted
  simpa [UInt16.not_lt] using (Nat.add_left_cancel parted).symm

/-- All old data blocks are carried over. -/
theorem newStripes_mul_dataAfter : input.newStripes * input.code.dataAfter.toNat =
    input.cluster.stripes.toNat * input.code.dataBefore.toNat := by
  obtain ⟨fanIn, checked⟩ := checked_of_reconcile success
  rw [newStripes, ← checked.admits.fanIn_eq, checked.admits.dataAfter_eq, ← Nat.mul_assoc,
    Nat.div_mul_cancel checked.admits.divides]

theorem methods_of_reconcile (method : EncodeMethod) :
    (result.stats.value method.counter).toNat =
      input.groups.countP fun group => group.method = method := by
  have ofStripes (entry : Entry) : method.counter ∉ input.recount entry := by
    rw [mem_recount]
    cases method <;> exact id
  have noEntry : (result.table.entries.countP fun entry =>
      method.counter ∈ input.recount entry) = 0 := by
    apply List.countP_eq_zero.mpr
    intro entry _
    simpa using ofStripes entry
  rw [value_of_reconcile success, noEntry, Nat.add_zero]
  apply List.countP_congr
  intro group _
  cases group.method <;> cases method <;> simp [EncodeMethod.counter]

/-- Every stripe has one of the two methods. -/
theorem stripes_of_reconcile :
    result.stats.reEncoded.toNat + result.stats.parityMerged.toNat = input.newStripes := by
  obtain ⟨fanIn, checked⟩ := checked_of_reconcile success
  have parted := List.length_eq_countP_add_countP
    (fun group : StripeGroup => decide (group.method = .reEncode)) (l := input.groups)
  have merged : (input.groups.countP fun group => ¬decide (group.method = .reEncode) = true) =
      input.groups.countP fun group => group.method = .parityMerge := by
    apply List.countP_congr
    intro group _
    cases group.method <;> simp
  have reEncoded : result.stats.reEncoded.toNat = _ := methods_of_reconcile success .reEncode
  have parityMerged : result.stats.parityMerged.toNat = _ :=
    methods_of_reconcile success .parityMerge
  rw [reEncoded, parityMerged, ← merged, ← parted, checked.length_groups, newStripes,
    checked.admits.fanIn_eq]

theorem relocated_of_reconcile : result.stats.relocated.toNat =
    result.table.entries.countP fun entry => decide (entry.key.block < input.code.dataAfter) &&
      !input.managed && !input.retains entry.key entry.node := by
  apply value_of_reconcile_of_blocks success .relocated
  · intro method
    cases method <;> simp [EncodeMethod.counter]
  · intro entry
    simp [mem_recount, CountsFor, and_assoc]

/-- Where no outside catalog is asked, a data block is retained or relocated. -/
theorem data_of_reconcile (unmanaged : input.managed = false) :
    result.stats.retained.toNat + result.stats.relocated.toNat =
      input.newStripes * input.code.dataAfter.toNat := by
  have parted := List.countP_eq_countP_filter_add result.table.entries
    (fun entry => decide (entry.key.block < input.code.dataAfter))
    (fun entry => input.retains entry.key entry.node)
  rw [← countP_data_of_reconcile success, parted, retained_of_reconcile success,
    relocated_of_reconcile success, List.countP_filter, List.countP_filter]
  congr 1
  · apply List.countP_congr
    intro entry _
    simp +contextual [retains]
  · apply List.countP_congr
    intro entry _
    simp [unmanaged]

end Table

/-! ## Blocks that keep their path -/

/-- A data block that was in the directory of its node is retained just where its path stays. -/
theorem Reconciliation.Located.retains_eq_keepsPath {α : Type} [DecidableEq α] {view : Path → α}
    (finer : ∀ left right, view left = view right → left.components = right.components)
    (settled : input.Settled view) {entry : Entry} (located : Located input entry) :
    input.retains entry.key entry.node = input.keepsPath view entry := by
  cases located with
  | entrusted isData carried managed location => simp [retains, keepsPath, managed, location]
  | deferred isData carried unmanaged recorded pending location =>
      obtain ⟨path, _, stored, _⟩ := settled _ (ProvenanceTable.find?_eq_some.mp recorded).1
      rw [pending] at stored
      cases stored
  | announced isParity managed location => simp [retains, keepsPath, managed, location]
  | minted isParity unmanaged location =>
      have notData := UInt16.not_lt.mpr isParity
      simp only [retains, keepsPath, location, notData, decide_false, Bool.and_false,
        Bool.false_and]
      split <;> rfl
  | @moved source before path name isData carried unmanaged recorded stored named location =>
      obtain ⟨old, ordinaryName, oldStored, ordinary, settledAt⟩ :=
        settled _ (ProvenanceTable.find?_eq_some.mp recorded).1
      obtain rfl := Location.stored.inj (stored.symm.trans oldStored)
      have sameName : name = ordinaryName := by
        have names := Path.fileName?_congr (finer _ _ settledAt)
        rw [named, fileName?_relocatedPath _ _ ordinary] at names
        exact Option.some.inj names
      have sameNode : before.node = entry.node ↔
          view (relocatedPath input.dataDirectory entry.node name) = view path := by
        rw [settledAt, sameName]
        constructor
        · intro same
          rw [same]
        · intro same
          exact ((relocatedPath_components_inj ordinary ordinary).mp (finer _ _ same)).2.symm
      simp [retains, keepsPath, unmanaged, isData, carried, recorded, location, stored,
        Location.path?, ← sameNode, beq_eq_decide]

/-- Where every old file lies in the directory of its node, the retained blocks are the data blocks
whose path stays the same. -/
theorem retained_of_settled {α : Type} [DecidableEq α] {view : Path → α}
    (finer : ∀ left right, view left = view right → left.components = right.components)
    (success : reconcile available input = .ok result) (settled : input.Settled view) :
    result.stats.retained.toNat = result.table.entries.countP (input.keepsPath view) := by
  rw [retained_of_reconcile success]
  apply List.countP_congr
  intro entry member
  have located := (located_of_reconcile success member).2
  rw [located.retains_eq_keepsPath finer settled]

/-- The statistics of a reconciliation are a recount of its table, and no counter overflows. -/
theorem reconcile_recounts (available : Nat) (input : Reconciliation) :
    (∀ result, reconcile available input = .ok result → Recounts input result) ∧
      reconcile available input ≠ .error (.fault .overflow) := by
  constructor
  · intro result success
    have stepwise : ∀ left right : Path, left.bytes = right.bytes →
        left.components = right.components := by
      intro left right same
      rw [Path.components, Path.components, same]
    exact {
      reEncoded := methods_of_reconcile success .reEncode
      parityMerged := methods_of_reconcile success .parityMerge
      stripes := stripes_of_reconcile success
      minted := by
        rw [← countP_parity_of_reconcile success]
        apply value_of_reconcile_of_blocks success .minted
        · intro method
          cases method <;> simp [EncodeMethod.counter]
        · intro entry
          rw [mem_recount, CountsFor, decide_eq_true_eq]
      deferred := by
        apply value_of_reconcile_of_blocks success .deferred
        · intro method
          cases method <;> simp [EncodeMethod.counter]
        · intro entry
          exact mem_recount
      managed := by
        intro managed
        constructor
        · exact retained_of_managed managed success
        · rw [relocated_of_reconcile success, List.countP_eq_zero]
          intro entry _
          simp [managed]
      data := data_of_reconcile success
      carried := newStripes_mul_dataAfter success
      retained := retained_of_reconcile success
      keptBytes := retained_of_settled stepwise success
      keptSteps := retained_of_settled (fun _ _ same => same) success }
  · intro overflow
    exact foreseen_of_reconcile overflow

/-- Two blocks in the directories of their nodes, of which one stays and one goes to another node. -/
def settledPair : Reconciliation where
  code := ⟨1, 1, 2, 1⟩
  cluster := ⟨3, 2⟩
  before := .ofList [⟨⟨0, 0⟩, 0, .stored (.ofString "e/node_0/a")⟩,
    ⟨⟨1, 0⟩, 1, .stored (.ofString "e/node_1/b")⟩]
  placement := [[0, 2, 1]]
  groups := [⟨[0, 1], .parityMerge, [0, 2, 1]⟩]
  dataDirectory := .ofString "e"
  managed := false
  workers := 1

theorem settled_settledPair : settledPair.Settled Path.bytes := by
  have entries : settledPair.before.entries =
      [⟨⟨0, 0⟩, 0, .stored (.ofString "e/node_0/a")⟩,
        ⟨⟨1, 0⟩, 1, .stored (.ofString "e/node_1/b")⟩] := rfl
  have ordinary (byte : UInt8) (plain : byte ≠ Path.separator) (notDot : byte ≠ 0x2E) :
      Path.IsName [byte] := {
    nonempty := by simp
    unseparated := by simpa using plain.symm
    not_current := by simpa [Path.currentSegment] using notDot
    not_parent := by simp [Path.parentSegment] }
  intro entry member
  simp only [entries, List.mem_cons, List.not_mem_nil, or_false] at member
  rcases member with rfl | rfl
  · exact ⟨_, [0x61], rfl, ordinary _ (by decide) (by decide), by decide⟩
  · exact ⟨_, [0x62], rfl, ordinary _ (by decide) (by decide), by decide⟩

theorem reconcile_recounts_settledPair :
    ∃ result, reconcile 1 settledPair = .ok result ∧ result.stats.retained.toNat = 1 ∧
      result.table.entries.countP (settledPair.keepsPath Path.bytes) = 1 ∧
      result.stats.minted.toNat = 1 ∧ result.stats.parityMerged.toNat = 1 := by
  have counted : (reconcile 1 settledPair).map (·.stats.retained.toNat) = .ok 1 := by decide
  obtain ⟨result, success⟩ := Outcome.exists_eq_ok (reconcile 1 settledPair) (by decide)
  have recounts := (reconcile_recounts 1 settledPair).1 result success
  have retained : result.stats.retained.toNat = 1 := by
    rw [success] at counted
    exact Except.ok.inj counted
  have kept := recounts.keptBytes settled_settledPair
  exact ⟨result, success, retained, kept.symm.trans retained, recounts.minted,
    recounts.parityMerged⟩

end Restripe
