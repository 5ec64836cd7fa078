import Restripe.Proofs.Metadata.Provenance
import Restripe.Proofs.Reconcile.Counters

/-!
# The table of the new stripes

The new stripes have one entry for every place of the placement, so their keys are all different and
there are fewer of them than a counter can hold.  Once all stripes are reconciled, neither the table
nor the statistics can fail.
-/

namespace Restripe.Reconciliation

open Outcome

def entries (stripes : List StripeOutcome) : List Entry :=
  stripes.flatMap fun stripe => stripe.blocks.map BlockOutcome.entry

variable {input : Reconciliation} {fanIn : UInt16} {stripes : List StripeOutcome}

theorem keys_entries (checked : input.Checked fanIn)
    (success : reconcileFrom input 0 input.groups = .ok stripes) :
    (entries stripes).map Entry.key = input.placement.keys := by
  have rows : stripes.map (fun stripe => stripe.blocks.map (·.entry.key)) =
      input.groups.zipIdx.map fun place =>
        Placement.rowKeys place.2 place.1.nodes.length := by
    refine map_of_mapM success ?_
    rintro ⟨group, index⟩ member outcome stripe
    exact keys_of_reconcileStripe checked (List.mk_mem_zipIdx_iff_getElem?.mp member) stripe
  calc
    (entries stripes).map Entry.key
        = (stripes.map fun stripe => stripe.blocks.map (·.entry.key)).flatten := by
      simp [entries, List.flatMap_def, Function.comp_def]
    _ = (input.groups.zipIdx.map fun place =>
          Placement.rowKeys place.2 place.1.nodes.length).flatten := by rw [rows]
    _ = input.placement.keys := by
      rw [← checked.nodes_eq, Placement.keys, List.zipIdx_map, List.flatMap_map, List.flatMap_def]
      rfl

theorem located_of_mem_entries (checked : input.Checked fanIn)
    (success : reconcileFrom input 0 input.groups = .ok stripes) {entry : Entry}
    (member : entry ∈ entries stripes) :
    input.placement.holder? entry.key = some entry.node ∧ Located input entry := by
  obtain ⟨stripe, inStripes, inEntries⟩ := List.mem_flatMap.mp member
  obtain ⟨block, inBlocks, rfl⟩ := List.mem_map.mp inEntries
  obtain ⟨⟨group, index⟩, inGroups, step⟩ := (mem_of_mapM success stripe).mp inStripes
  exact located_of_mem_blocks checked (List.mk_mem_zipIdx_iff_getElem?.mp inGroups) step inBlocks

theorem exists_table (checked : input.Checked fanIn)
    (success : reconcileFrom input 0 input.groups = .ok stripes) :
    ∃ result, table stripes = .ok result := by
  apply ProvenanceTable.exists_foldlM_insert
  change ((entries stripes).map Entry.key).Nodup
  rw [keys_entries checked success]
  exact Placement.keys_nodup checked.addressable

theorem mem_table {result : ProvenanceTable} (built : table stripes = .ok result) {entry : Entry} :
    entry ∈ result.entries ↔ entry ∈ entries stripes :=
  ProvenanceTable.mem_of_foldlM_insert built

theorem contains_table (checked : input.Checked fanIn)
    (success : reconcileFrom input 0 input.groups = .ok stripes) {result : ProvenanceTable}
    (built : table stripes = .ok result) {key : BlockKey} :
    result.contains key = true ↔ ∃ node, input.placement.holder? key = some node := by
  rw [ProvenanceTable.contains_eq_true, ← Placement.mem_keys checked.addressable,
    ← keys_entries checked success]
  simp only [mem_table built, List.mem_map]

/-! ## Counting the blocks and stripes -/

theorem methods_of_reconcileFrom (checked : input.Checked fanIn)
    (success : reconcileFrom input 0 input.groups = .ok stripes) :
    stripes.map StripeOutcome.method = input.groups.map StripeGroup.method := by
  have methods : stripes.map StripeOutcome.method =
      input.groups.zipIdx.map fun place => place.1.method := by
    apply map_of_mapM success
    intro place member stripe step
    exact (blocks_of_reconcileStripe checked (List.mk_mem_zipIdx_iff_getElem?.mp member) step).1
  conv => rhs; rw [← List.zipIdx_map_fst 0 input.groups, List.map_map]
  exact methods

theorem flatMap_counts_eq_recount (checked : input.Checked fanIn)
    (success : reconcileFrom input 0 input.groups = .ok stripes) :
    stripes.flatMap (fun stripe => stripe.blocks.flatMap BlockOutcome.counts) =
      (entries stripes).flatMap input.recount := by
  rw [entries, List.flatMap_assoc]
  apply List.flatMap_congr
  intro stripe inStripes
  obtain ⟨⟨group, index⟩, inZip, step⟩ := (mem_of_mapM success stripe).mp inStripes
  have inGroups := List.mk_mem_zipIdx_iff_getElem?.mp inZip
  have traversal := (blocks_of_reconcileStripe checked inGroups step).2
  rw [List.flatMap_map]
  apply List.flatMap_congr
  intro block inBlocks
  obtain ⟨⟨node, position⟩, -, reconciled⟩ := (mem_of_mapM traversal block).mp inBlocks
  exact counts_of_reconcileBlock checked (getElem?_ofIndices checked inGroups position) reconciled

/-- A counter is bumped once for each group of its method, and as often as the entries count for
it. -/
theorem count_counts (checked : input.Checked fanIn)
    (success : reconcileFrom input 0 input.groups = .ok stripes) (counter : Counter) :
    (stripes.flatMap StripeOutcome.counts).count counter =
      (input.groups.map fun group => group.method.counter).count counter +
        ((entries stripes).flatMap input.recount).count counter := by
  have parted : (stripes.flatMap StripeOutcome.counts).count counter =
      (stripes.map fun stripe => stripe.method.counter).count counter +
        (stripes.flatMap fun stripe =>
          stripe.blocks.flatMap BlockOutcome.counts).count counter := by
    clear success
    induction stripes with
    | nil => rfl
    | cons stripe stripes ih =>
        simp only [List.flatMap_cons, List.map_cons, List.count_append, List.count_cons,
          StripeOutcome.counts, ih]
        omega
  have methods := congrArg (List.map EncodeMethod.counter)
    (methods_of_reconcileFrom checked success)
  simp only [List.map_map, Function.comp_def] at methods
  rw [parted, methods, flatMap_counts_eq_recount checked success]

theorem exists_stats (checked : input.Checked fanIn)
    (success : reconcileFrom input 0 input.groups = .ok stripes) :
    ∃ result, stats stripes = .ok result := by
  have fits (counter : Counter) :
      (stripes.flatMap StripeOutcome.counts).count counter < UInt64.size := by
    have methods := List.count_le_length
      (l := input.groups.map fun group => group.method.counter) (a := counter)
    have blocks := List.countP_le_length (l := entries stripes)
      (p := fun entry => counter ∈ input.recount entry)
    have keys := congrArg List.length (keys_entries checked success)
    have numbered := Placement.length_keys_le checked.addressable
    have groups := checked.length_groups_lt
    rw [count_counts checked success, count_flatMap_recount]
    rw [List.length_map] at methods keys
    simp only [UInt16.size, UInt32.size, UInt64.size] at numbered groups ⊢
    omega
  refine ⟨.ofValues fun counter =>
    .ofNat ((stripes.flatMap StripeOutcome.counts).count counter), stats_eq_ok.mpr ?_⟩
  intro counter
  rw [Stats.value_ofValues, UInt64.toNat_ofNat_of_lt' (fits counter)]

end Restripe.Reconciliation

/-!
## Independence of the workers

However the stripes are shared among workers, each is reconciled under its own number, and the runs
are joined in order.  So the outcome is that of one worker, and a failure is that of the lowest
stripe that fails.
-/

namespace Restripe

open Outcome

/-! ### Runs -/

theorem mapM_flatMap {ε α β γ : Type} (step : β → Except ε γ) (split : α → List β)
    (items : List α) :
    (items.flatMap split).mapM step =
      items.mapM (fun item => (split item).mapM step) >>= fun results => .ok results.flatten := by
  induction items with
  | nil => rfl
  | cons item items ih =>
      simp only [List.flatMap_cons, List.mapM_append, ih, List.mapM_cons]
      cases (split item).mapM step with
      | error => rfl
      | ok first => cases items.mapM fun item => (split item).mapM step <;> rfl

namespace Reconciliation

variable {input : Reconciliation} {fanIn : UInt16} {error : Error}

theorem handOver_eq {result : Except Error α}
    (faultless : ∀ cause, result ≠ .error (.fault cause)) :
    handOver result = result := by
  unfold handOver
  split
  · rename_i cause
    exact absurd rfl (faultless cause)
  · rfl

theorem Uncarried.not_fault {source : BlockKey} (uncarried : Uncarried input source error)
    (cause : Fault) : error ≠ .fault cause := by
  cases uncarried <;> simp

theorem reconcileFrom_faultless (checked : input.Checked fanIn) {first : Nat}
    {groups : List StripeGroup}
    (run : ∀ index group, groups[index]? = some group → input.groups[first + index]? = some group)
    (cause : Fault) : reconcileFrom input first groups ≠ .error (.fault cause) := by
  intro fails
  obtain ⟨index, ⟨group, inRun, stripeFails⟩, -⟩ := mapM_zipIdx_eq_error.mp fails
  obtain ⟨block, source, -, uncarried⟩ :=
    uncarried_of_reconcileStripe checked (run index group inRun) stripeFails
  exact uncarried.not_fault cause rfl

/-- The run of a worker reconciles the stripes of its groups. -/
theorem reconcileRun_eq {first : Nat} {groups : List StripeGroup}
    (numbered : first + groups.length ≤ UInt64.size) :
    reconcileRun input first groups = reconcileFrom input first groups := by
  rw [reconcileFrom, List.zipIdx_eq_map_add, List.mapM_map]
  apply mapM_congr
  intro place member
  have bound := (List.getElem?_eq_some_iff.mp (List.mk_mem_zipIdx_iff_getElem?.mp member)).1
  simp only [Function.comp_apply, word_eq (Nat.lt_of_lt_of_le (Nat.add_lt_add_left bound _)
    numbered), ok_bind]

/-- Sharing the stripes among workers does not change the outcome. -/
theorem reconcileShared_eq (checked : input.Checked fanIn) {workers : Nat} (positive : 0 < workers)
    (nonempty : 0 < input.groups.length) :
    reconcileShared input workers = reconcileFrom input 0 input.groups := by
  obtain ⟨length, rounded⟩ := exists_divideUp positive nonempty
  have within : ∀ place ∈ (runsOfSucc length input.groups).zipIdx,
      place.2 * (length + 1) + place.1.length ≤ input.groups.length := by
    intro place member
    have occupied := length_pos_of_mem_runs
      (List.mem_of_getElem? (List.mk_mem_zipIdx_iff_getElem?.mp member))
    obtain ⟨last, equation⟩ := Nat.exists_eq_add_one.mpr occupied
    have found := getElem?_of_mem_runs member
      (List.getElem?_eq_getElem (show last < place.1.length by omega))
    have bound := (List.getElem?_eq_some_iff.mp found).1
    omega
  have counted := checked.length_groups_lt
  have numbered : ∀ place ∈ (runsOfSucc length input.groups).zipIdx,
      place.2 * (length + 1) + place.1.length < UInt64.size := by
    intro place member
    have bound := within place member
    simp only [UInt32.size, UInt64.size] at counted ⊢
    omega
  have firsts : (runsOfSucc length input.groups).zipIdx.mapM (fun place => do
      return (place.1, ← word (place.2 * (length + 1)))) =
        .ok ((runsOfSucc length input.groups).zipIdx.map fun place =>
          (place.1, place.2 * (length + 1))) := by
    refine (mapM_congr fun place member => ?_).trans List.mapM_pure
    rw [word_eq (Nat.lt_of_le_of_lt (Nat.le_add_right _ _) (numbered place member)), ok_bind]
  have handed : ∀ place ∈ (runsOfSucc length input.groups).zipIdx,
      handOver (reconcileRun input (place.2 * (length + 1)) place.1) =
        reconcileFrom input (place.2 * (length + 1)) place.1 := by
    intro place member
    rw [reconcileRun_eq (Nat.le_of_lt (numbered place member))]
    exact handOver_eq (reconcileFrom_faultless checked fun _ _ => getElem?_of_mem_runs member)
  have inOrder := zipIdx_runsOfSucc length input.groups 0
  rw [Nat.zero_mul] at inOrder
  simp only [reconcileShared, rounded, chunks, pure_eq, ok_bind] at firsts ⊢
  simp only [firsts, ok_bind, List.mapM_map, Function.comp_def]
  rw [mapM_congr handed, reconcileFrom, ← inOrder, mapM_flatMap]
  rfl

theorem reconcileStripes_eq (checked : input.Checked fanIn) (available : Nat) :
    reconcileStripes available input = reconcileFrom input 0 input.groups := by
  simp only [reconcileStripes]
  split
  · rfl
  · rename_i several
    apply reconcileShared_eq checked
    · omega
    · unfold effectiveWorkers at several
      omega

/-- A stripe is the lowest that fails, with an error. -/
structure FailsFirst (input : Reconciliation) (index : Nat) (error : Error) : Prop where
  fails : ∃ group, input.groups[index]? = some group ∧
    reconcileStripe input group index = .error error
  earlier_succeed : ∀ earlier < index, ∃ group outcome, input.groups[earlier]? = some group ∧
    reconcileStripe input group earlier = .ok outcome

theorem reconcileFrom_eq_error :
    reconcileFrom input 0 input.groups = .error error ↔ ∃ index, input.FailsFirst index error := by
  rw [reconcileFrom, mapM_zipIdx_eq_error]
  constructor
  · rintro ⟨index, fails, succeed⟩
    exact ⟨index, by simpa using fails, by simpa using succeed⟩
  · rintro ⟨index, fails, succeed⟩
    exact ⟨index, by simpa using fails, by simpa using succeed⟩

end Reconciliation

open Reconciliation

theorem reconcile_eq (available : Nat) (input : Reconciliation) :
    reconcile available input = (do
      let fanIn ← input.cluster.validate input.code
      input.checkArtifacts fanIn
      let stripes ← input.reconcileFrom 0 input.groups
      let stats ← Reconciliation.stats stripes
      return ⟨← Reconciliation.table stripes, stats⟩) := by
  unfold reconcile
  cases validated : input.cluster.validate input.code with
  | error => rfl
  | ok fanIn =>
      cases agreed : input.checkArtifacts fanIn with
      | error error => simp [agreed]
      | ok outcome =>
          have checked := checks_eq_ok.mp ⟨validated, agreed⟩
          simp [agreed, reconcileStripes_eq checked available]

/-- A reconciliation that succeeds has checked its input and reconciled all stripes. -/
theorem reconcile_eq_ok {available : Nat} {input : Reconciliation} {result : Reconciled} :
    reconcile available input = .ok result ↔
      ∃ fanIn stripes, input.Checked fanIn ∧ input.reconcileFrom 0 input.groups = .ok stripes ∧
        Reconciliation.stats stripes = .ok result.stats ∧
        Reconciliation.table stripes = .ok result.table := by
  rw [reconcile_eq]
  simp only [bind_eq_ok, pure_eq]
  constructor
  · rintro ⟨fanIn, validated, outcome, agreed, stripes, reconciled, stats, counted, table, built,
      same⟩
    obtain rfl := Except.ok.inj same
    exact ⟨fanIn, stripes, checks_eq_ok.mp ⟨validated, agreed⟩, reconciled, counted, built⟩
  · rintro ⟨fanIn, stripes, checked, reconciled, counted, built⟩
    obtain ⟨validated, agreed⟩ := checks_eq_ok.mpr checked
    exact ⟨fanIn, validated, (), agreed, stripes, reconciled, _, counted, _, built, rfl⟩

/-- Once its input is checked, a reconciliation fails only with the error of the lowest stripe that
fails. -/
theorem reconcile_eq_error_of_checked {fanIn : UInt16} {input : Reconciliation}
    (checked : input.Checked fanIn) (available : Nat) (error : Error) :
    reconcile available input = .error error ↔ ∃ index, input.FailsFirst index error := by
  obtain ⟨validated, agreed⟩ := checks_eq_ok.mpr checked
  rw [reconcile_eq, validated, ok_bind, agreed, ok_bind, ← reconcileFrom_eq_error]
  cases reconciled : input.reconcileFrom 0 input.groups with
  | error => simp
  | ok stripes =>
      obtain ⟨stats, counted⟩ := exists_stats checked reconciled
      obtain ⟨table, built⟩ := exists_table checked reconciled
      simp [counted, built]

/-- The number of workers changes nothing: the table and the statistics are those of one worker, and
so is the error.  It is that of the check that fails, or else of the lowest stripe that fails. -/
theorem reconcile_workers (available alone : Nat) (input : Reconciliation) (workers : UInt64) :
    reconcile available { input with workers } = reconcile alone { input with workers := 1 } ∧
      ∀ error, reconcile available { input with workers } = .error error ↔
        input.cluster.validate input.code = .error error ∨
        ∃ fanIn, input.cluster.validate input.code = .ok fanIn ∧
          (input.checkArtifacts fanIn = .error error ∨
            input.checkArtifacts fanIn = .ok () ∧ ∃ index, input.FailsFirst index error) := by
  constructor
  · rw [reconcile_eq, reconcile_eq]
    rfl
  · intro error
    have same : reconcile available { input with workers } = reconcile available input := by
      rw [reconcile_eq, reconcile_eq]
      rfl
    rw [same]
    cases validated : input.cluster.validate input.code with
    | error cause => simp [reconcile, validated]
    | ok fanIn =>
        cases agreed : input.checkArtifacts fanIn with
        | error cause => simp [reconcile, validated, agreed]
        | ok outcome =>
            have checked := checks_eq_ok.mp ⟨validated, agreed⟩
            simp [reconcile_eq_error_of_checked checked, agreed]

/-!
## The result of a reconciliation

The table of a reconciliation that succeeds has an entry for every block of every new stripe and no
other.  Each is on the node that the placement says and points to where its block belongs; a file is
in the directory of its own node.
-/

variable {available : Nat} {input : Reconciliation} {result : Reconciled}

/-- A block that is located in a file has it in the directory of its node. -/
theorem Reconciliation.Located.parent?_eq {entry : Entry} (located : Located input entry)
    {path : Path} (stored : entry.location = .stored path) :
    path.parent? = some (input.dataDirectory.child (nodeDirectory entry.node)) := by
  cases located with
  | entrusted _ _ _ location | deferred _ _ _ _ _ location | announced _ _ location =>
      rw [location] at stored
      contradiction
  | moved _ _ _ _ _ named location =>
      obtain rfl := Location.stored.inj (location.symm.trans stored)
      exact parent?_relocatedPath _ _ (Path.isName_of_fileName? named)
  | minted _ _ location =>
      obtain rfl := Location.stored.inj (location.symm.trans stored)
      exact parent?_parityBlockPath _ _ _

theorem checked_of_reconcile (success : reconcile available input = .ok result) :
    ∃ fanIn, input.Checked fanIn := by
  obtain ⟨fanIn, stripes, checked, -⟩ := reconcile_eq_ok.mp success
  exact ⟨fanIn, checked⟩

theorem contains_of_reconcile (success : reconcile available input = .ok result) {key : BlockKey} :
    result.table.contains key = true ↔
      key.stripe.toNat < input.cluster.stripes.toNat /
        (input.code.dataAfter.toNat / input.code.dataBefore.toNat) ∧
      key.block.toNat < input.code.dataAfter.toNat + input.code.parityAfter.toNat := by
  obtain ⟨fanIn, stripes, checked, reconciled, -, built⟩ := reconcile_eq_ok.mp success
  rw [contains_table checked reconciled built, checked.exists_holder, checked.admits.fanIn_eq]

theorem located_of_reconcile (success : reconcile available input = .ok result) {entry : Entry}
    (member : entry ∈ result.table.entries) :
    input.placement.holder? entry.key = some entry.node ∧ Located input entry := by
  obtain ⟨fanIn, stripes, checked, reconciled, -, built⟩ := reconcile_eq_ok.mp success
  exact located_of_mem_entries checked reconciled ((mem_table built).mp member)

/-- The table has all entries that are on the node of the placement and located by the rules. -/
theorem mem_of_located (success : reconcile available input = .ok result) {entry : Entry}
    (holder : input.placement.holder? entry.key = some entry.node)
    (located : Located input entry) : entry ∈ result.table.entries := by
  obtain ⟨fanIn, stripes, checked, reconciled, -, built⟩ := reconcile_eq_ok.mp success
  obtain ⟨other, member, sameKey⟩ := ProvenanceTable.contains_eq_true.mp
    ((contains_table checked reconciled built).mpr ⟨_, holder⟩)
  obtain ⟨otherHolder, otherLocated⟩ := located_of_reconcile success member
  have sameNode : other.node = entry.node := by
    rw [sameKey, holder] at otherHolder
    exact (Option.some.inj otherHolder).symm
  exact otherLocated.unique located sameKey sameNode ▸ member

/-- A reconciliation that succeeds records exactly the blocks of the new stripes.  Its entries are
those on the node of the placement that point to where their block belongs, and every file is in the
directory of its own node. -/
theorem reconcile_locates (success : reconcile available input = .ok result) :
    (∀ key, result.table.contains key = true ↔
      key.stripe.toNat < input.cluster.stripes.toNat /
        (input.code.dataAfter.toNat / input.code.dataBefore.toNat) ∧
      key.block.toNat < input.code.dataAfter.toNat + input.code.parityAfter.toNat) ∧
    (∀ entry, entry ∈ result.table.entries ↔
      input.placement.holder? entry.key = some entry.node ∧ Located input entry) ∧
    ∀ entry ∈ result.table.entries, ∀ path, entry.location = .stored path →
      path.parent? = some (input.dataDirectory.child (nodeDirectory entry.node)) := by
  refine ⟨fun key => contains_of_reconcile success, ?_, ?_⟩
  · intro entry
    exact ⟨located_of_reconcile success, fun ⟨holder, located⟩ =>
      mem_of_located success holder located⟩
  · intro entry member path stored
    exact (located_of_reconcile success member).2.parent?_eq stored

/-- Two stripes of one data block become one stripe of two, the second stripe's block first. -/
def swapped : Reconciliation where
  code := ⟨1, 1, 2, 1⟩
  cluster := ⟨3, 2⟩
  before := .ofList [⟨⟨0, 0⟩, 0, .stored ⟨[100, 47, 97]⟩⟩, ⟨⟨1, 0⟩, 1, .stored ⟨[100, 47, 98]⟩⟩]
  placement := [[0, 1, 2]]
  groups := [⟨[1, 0], .reEncode, [0, 1, 2]⟩]
  dataDirectory := ⟨[101]⟩
  managed := false
  workers := 1

theorem reconcile_locates_swapped :
    ∃ result, reconcile 1 swapped = .ok result ∧
      (∀ key, result.table.contains key = true ↔ key.stripe.toNat < 1 ∧ key.block.toNat < 3) ∧
      ∀ entry, entry ∈ result.table.entries ↔
        swapped.placement.holder? entry.key = some entry.node ∧ Located swapped entry := by
  obtain ⟨result, success⟩ := Outcome.exists_eq_ok (reconcile 1 swapped) (by decide)
  obtain ⟨keys, entries, -⟩ := reconcile_locates success
  exact ⟨result, success, keys, entries⟩

end Restripe
