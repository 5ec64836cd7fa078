import Restripe.Proofs.Epoch.Provenance
import Restripe.Proofs.Metadata.BlockMapping
import Restripe.Proofs.Plan
import Restripe.Proofs.Reconcile.Source

/-!
# Success and failure of a reconciliation

A reconciliation of checked input succeeds where the files of all old data blocks can be carried
over, and no other block fails.
-/

/-!
## Reconciliations that succeed

A plan passes the check of the artifacts.  What is checked is reconciled as soon as every old data
block is recorded and its file, where it has one, has a name.
-/

namespace Restripe

open Reconciliation Outcome

section Success

variable {available : Nat} {input : Reconciliation} {fanIn : UInt16} {result : Reconciled}

/-- A plan passes the check of the artifacts. -/
theorem Plan.Covers.checked (covers : Plan.Covers input.code input.cluster fanIn input.groups)
    (admits : input.cluster.Admits input.code fanIn)
    (placement : input.placement = StripeGroup.placement input.groups) : input.Checked fanIn where
  admits := admits
  length_groups := covers.length_eq
  nodes_eq := placement.symm
  length_contributing group member := (covers.admitted group member).contributing
  length_nodes group member := (covers.admitted group member).nodes.length_eq
  known stripe member := by
    have inRange : stripe.toNat ∈ List.range input.cluster.stripes.toNat := by
      rw [← covers.consumed]
      exact List.mem_map_of_mem member
    exact UInt32.lt_iff_toNat_lt.mpr (List.mem_range.mp inRange)
  distinct := by
    have numbers : (input.consumed.map UInt32.toNat).Nodup := by
      rw [Reconciliation.consumed, covers.consumed]
      exact List.nodup_range
    exact numbers.of_map _

/-- What is checked is reconciled, where every old data block can be carried over. -/
theorem exists_reconcile (checked : input.Checked fanIn) (available : Nat)
    (carried : input.managed = false → ∀ source ∈ input.oldData, ∃ before,
      input.before.find? source = some before ∧
        ∀ path, before.location = .stored path → ∃ name, path.fileName? = some name) :
    ∃ result, reconcile available input = .ok result := by
  cases outcome : reconcile available input with
  | ok result => exact ⟨result, rfl⟩
  | error error =>
      obtain ⟨index, ⟨group, inGroups, fails⟩, _⟩ :=
        (reconcile_eq_error_of_checked checked available error).mp outcome
      obtain ⟨block, source, found, uncarried⟩ :=
        uncarried_of_reconcileStripe checked inGroups fails
      have isOld := checked.source?_mem_oldData found
      cases uncarried with
      | missing unmanaged unrecorded =>
          obtain ⟨before, recorded, _⟩ := carried unmanaged source isOld
          rw [unrecorded] at recorded
          cases recorded
      | @unnamed recordedBefore path unmanaged recorded stored unnamed =>
          obtain ⟨before, found, named⟩ := carried unmanaged source isOld
          have same : recordedBefore = before := Option.some.inj (recorded.symm.trans found)
          obtain ⟨name, isName⟩ := named path (same ▸ stored)
          rw [unnamed] at isName
          cases isName

theorem size_of_reconcile (success : reconcile available input = .ok result) :
    result.table.size = input.cluster.stripes.toNat /
      (input.code.dataAfter.toNat / input.code.dataBefore.toNat) *
        (input.code.dataAfter.toNat + input.code.parityAfter.toNat) := by
  obtain ⟨fanIn, stripes, checked, reconciled, -, built⟩ := reconcile_eq_ok.mp success
  have inserted := (ProvenanceTable.foldlM_insert_perm built).length_eq
  have keys := congrArg List.length (keys_entries checked reconciled)
  have widths : input.placement.map List.length =
      List.replicate input.placement.length input.code.widthAfter.toNat := by
    refine List.eq_replicate_iff.mpr ⟨List.length_map _, fun width member => ?_⟩
    obtain ⟨nodes, inPlacement, same⟩ := List.mem_map.mp member
    exact same ▸ checked.length_row inPlacement
  rw [List.length_map, Placement.length_keys, widths, List.sum_replicate_nat,
    checked.length_placement, checked.admits.widthAfter_eq, checked.admits.fanIn_eq] at keys
  calc result.table.size = (entries stripes).length := by
        simpa [ProvenanceTable.size, ProvenanceTable.empty, entries] using inserted
    _ = _ := keys

theorem node_mem_of_reconcile (success : reconcile available input = .ok result) {entry : Entry}
    (member : entry ∈ result.table.entries) :
    ∃ nodes ∈ input.placement, entry.node ∈ nodes := by
  obtain ⟨nodes, inPlacement, inRow⟩ :=
    Placement.holder?_eq_some.mp (located_of_reconcile success member).1
  exact ⟨nodes, List.mem_of_getElem? inPlacement, List.mem_of_getElem? inRow⟩

end Success

/-!
## Tables that can be carried on

A table can be written, and its blocks carried over by the next transition, where each of its paths
fits in one token and ends in a name that fits in one.  As long as the data directory has a plain
path this holds of the table of a new epoch, and every reconciliation keeps it.
-/

open Restripe.Path ProvenanceTable

/-! ### Plain directories -/

/-- A directory whose files can be named in a block mapping: its path is text that holds no blank
and is not taken for a pending location. -/
def Path.IsPlain (directory : Path) : Prop :=
  ∃ text, directory.bytes = Utf8.encode text ∧ ¬pendingMark <+: text ∧
    ∀ char ∈ text, isBlank char = false

/-- A path that can be written as one token, and whose file name can be written in another path. -/
structure Path.Portable (path : Path) : Prop where
  spelled : ∃ token, Spells token path
  named : ∃ name, path.fileName? = some (Utf8.encode name) ∧ ∀ char ∈ name, isBlank char = false

/-- A mark without slashes that a text begins with is over before the first slash. -/
theorem prefix_of_prefix_append {mark left right : Text} (within : '/' ∉ mark)
    (begins : mark <+: left ++ '/' :: right) : mark <+: left := by
  rcases List.prefix_or_prefix_of_prefix begins (List.prefix_append left _) with before | after
  · exact before
  · obtain ⟨rest, same⟩ := after
    cases rest with
    | nil => simp [← same]
    | cons char rest =>
        rw [← same, List.prefix_append_right_inj] at begins
        have slash : char = '/' := (List.cons_prefix_cons.mp begins).1
        exact absurd (by simp [← same, slash]) within

theorem noBlank_of_any {text : Text} (free : text.any isBlank = false) :
    ∀ char ∈ text, isBlank char = false :=
  fun char member => Bool.eq_false_of_not_eq_true (List.any_eq_false.mp free char member)

theorem noBlank_nodeText (node : NodeId) : ∀ char ∈ nodeText node, isBlank char = false := by
  simp only [nodeText, List.forall_mem_append]
  exact ⟨noBlank_of_any (by decide), fun char member =>
    isBlank_of_isDigit (Decimal.isDigit_of_mem_digits member)⟩

theorem isPlain_child {directory : Path} (plain : directory.IsPlain) (node : NodeId) :
    (directory.child (nodeDirectory node)).IsPlain := by
  obtain ⟨text, bytes, notPending, noBlank⟩ := plain
  have relative : (ofString (nodeDirectory node)).isAbsolute = false :=
    (isName_nodeDirectory node).not_absolute
  simp only [child, join, relative, Bool.false_eq_true, if_false]
  rw [ofString, nodeDirectory_eq, bytes]
  split
  · rename_i unseparated
    refine ⟨text ++ nodeText node, by rw [Utf8.encode_append], ?_, ?_⟩
    · intro begins
      rcases unseparated with empty | closed
      · have nothing : text = [] :=
          Utf8.encode_inj.mp (show Utf8.encode text = Utf8.encode [] from empty)
        simp [nothing, pendingMark, nodeText] at begins
      · obtain ⟨start, char, split, value⟩ :=
          Utf8.exists_of_getLast?_encode (by decide) closed
        have slash : char = '/' := Char.toNat_inj.mp value
        rw [split, slash, List.append_assoc] at begins
        have inStart := prefix_of_prefix_append (by decide) begins
        exact notPending (split ▸ inStart.trans (List.prefix_append start _))
    · exact List.forall_mem_append.mpr ⟨noBlank, noBlank_nodeText node⟩
  · have slash : Utf8.encode ('/' :: nodeText node)
        = separator :: Utf8.encode (nodeText node) := rfl
    refine ⟨text ++ '/' :: nodeText node, by rw [Utf8.encode_append, slash], ?_, ?_⟩
    · exact fun begins => notPending (prefix_of_prefix_append (by decide) begins)
    · exact List.forall_mem_append.mpr
        ⟨noBlank, List.forall_mem_cons.mpr ⟨by decide, noBlank_nodeText node⟩⟩

/-- A file of a node in a plain directory has a portable path, if its name is free of blanks. -/
theorem portable_file {directory : Path} (plain : directory.IsPlain) (node : NodeId) {name : Text}
    (ordinary : IsName (Utf8.encode name)) (noBlank : ∀ char ∈ name, isBlank char = false) :
    ((directory.child (nodeDirectory node)).join ⟨Utf8.encode name⟩).Portable := by
  obtain ⟨text, bytes, notPending, textBlank⟩ := isPlain_child plain node
  refine ⟨⟨text ++ '/' :: name, ?_, by simp, ?_, ?_⟩, name, fileName?_join ordinary, noBlank⟩
  · have slash : Utf8.encode ('/' :: name) = separator :: Utf8.encode name := rfl
    rw [Utf8.encode_append, ← bytes, slash]
    exact bytes_join_join ordinary (isName_nodeDirectory node)
  · exact fun begins => notPending (prefix_of_prefix_append (by decide) begins)
  · exact List.forall_mem_append.mpr ⟨textBlank, List.forall_mem_cons.mpr ⟨by decide, noBlank⟩⟩

theorem noBlank_numerals (key : BlockKey) : ∀ char ∈ key.numerals, isBlank char = false := by
  have digits (value : Nat) : ∀ char ∈ Decimal.digits value, isBlank char = false :=
    fun char member => isBlank_of_isDigit (Decimal.isDigit_of_mem_digits member)
  exact List.forall_mem_append.mpr ⟨digits _, List.forall_mem_cons.mpr ⟨by decide, digits _⟩⟩

theorem portable_initialBlockPath {directory : Path} (plain : directory.IsPlain) (node : NodeId)
    (key : BlockKey) : (initialBlockPath directory node key).Portable := by
  have ordinary := isName_initialBlockName key
  have file := portable_file plain node (initialBlockName_eq key ▸ ordinary)
    (List.forall_mem_append.mpr ⟨noBlank_of_any (by decide), noBlank_numerals key⟩)
  rwa [← initialBlockName_eq] at file

theorem portable_parityBlockPath {directory : Path} (plain : directory.IsPlain) (node : NodeId)
    (key : BlockKey) : (parityBlockPath directory node key).Portable := by
  have ordinary := isName_parityBlockName key
  have file := portable_file plain node (parityBlockName_eq key ▸ ordinary)
    (List.forall_mem_append.mpr ⟨noBlank_of_any (by decide), noBlank_numerals key⟩)
  rwa [← parityBlockName_eq] at file

/-! ### Portable tables -/

/-- Every path of the table is portable. -/
def ProvenanceTable.Portable (table : ProvenanceTable) : Prop :=
  ∀ entry ∈ table.entries, ∀ path, entry.location = .stored path → path.Portable

theorem ProvenanceTable.Portable.exists_render {table : ProvenanceTable}
    (portable : table.Portable) : ∃ text, table.render = .ok text :=
  ProvenanceTable.exists_render.mpr fun entry member path stored =>
    (portable entry member path stored).spelled

theorem portable_of_initialProvenance {directory : Path} (plain : directory.IsPlain)
    {placement : Placement} {table : ProvenanceTable}
    (begun : initialProvenance directory placement = .ok table) : table.Portable := by
  intro entry member path stored
  have initial : entry.location = _ := ((mem_initialProvenance begun).mp member).2
  have same := Location.stored.inj (stored.symm.trans initial)
  exact same ▸ portable_initialBlockPath plain entry.node entry.key

/-- A file of the table that has a name has one that can be written in another path. -/
def ProvenanceTable.NamesPlain (table : ProvenanceTable) : Prop :=
  ∀ entry ∈ table.entries, ∀ path, entry.location = .stored path → ∀ name,
    path.fileName? = some name →
      ∃ text, name = Utf8.encode text ∧ ∀ char ∈ text, isBlank char = false

theorem ProvenanceTable.Portable.namesPlain {table : ProvenanceTable} (portable : table.Portable) :
    table.NamesPlain := by
  intro entry member path stored name named
  obtain ⟨text, isName, noBlank⟩ := (portable entry member path stored).named
  exact ⟨text, Option.some.inj (named.symm.trans isName), noBlank⟩

/-- A reconciliation keeps the names of the files, so it gives a portable table where they can be
written.  An outside catalog is told no paths. -/
theorem portable_of_reconcile {available : Nat} {input : Reconciliation} {result : Reconciled}
    (plain : input.managed = false → input.dataDirectory.IsPlain)
    (before : input.managed = false → input.before.NamesPlain)
    (success : reconcile available input = .ok result) : result.table.Portable := by
  intro entry member path stored
  cases (located_of_reconcile success member).2 with
  | entrusted _ _ _ location | deferred _ _ _ _ _ location | announced _ _ location =>
      rw [location] at stored
      cases stored
  | moved _ _ unmanaged recorded oldStored named location =>
      have oldMember := (ProvenanceTable.find?_eq_some.mp recorded).1
      obtain ⟨name, isName, noBlank⟩ := before unmanaged _ oldMember _ oldStored _ named
      have ordinary := isName_of_fileName? named
      have same := Location.stored.inj (location.symm.trans stored)
      rw [← same, relocatedPath, isName]
      exact portable_file (plain unmanaged) entry.node (isName ▸ ordinary) noBlank
  | minted _ unmanaged location =>
      have same := Location.stored.inj (location.symm.trans stored)
      exact same ▸ portable_parityBlockPath (plain unmanaged) entry.node entry.key

/-!
## What a reconciliation fails for

A reconciliation that fails has been given a code that does not fit the cluster, artifacts that do
not agree, or a block that cannot be carried over.  It never stops with a fault, and what should
never happen does not happen.  Writing its table fails only for a path that is no token, and there
is none where the data directory is plain and the files that are carried over have plain names.
-/

/-- The configuration, an input file, the solver or the file system is to blame. -/
def Error.IsForeseen : Error → Prop
  | .parse .. | .missingProvenance _ | .artifactMismatch _ | .config _ | .solver _ | .io _ => True
  | .internal _ | .fault _ => False

/-- A table was not written because of a path that is no token. -/
def Error.IsUnwritable (error : Error) : Prop :=
  ∃ key path, error = .internal (.unwritableLocation key path) ∧
    ∀ token, ¬ProvenanceTable.Spells token path

/-! ### Validation -/

theorem Code.config_of_fanIn {code : Code} {error : Error} (failed : code.fanIn = .error error) :
    ∃ cause, error = .config cause := by
  unfold fanIn at failed
  simp only [throw_eq, error_bind] at failed
  split at failed
  · exact ⟨_, (Except.error.inj failed).symm⟩
  · rename_i nonzero
    rw [divide_eq (not_or.mp nonzero).1, ok_bind] at failed
    simp only at failed
    split at failed
    · exact ⟨_, (Except.error.inj failed).symm⟩
    · split at failed
      · exact ⟨_, (Except.error.inj failed).symm⟩
      · cases failed

theorem Cluster.config_of_validate {cluster : Cluster} {code : Code} {error : Error}
    (failed : cluster.validate code = .error error) : ∃ cause, error = .config cause := by
  rcases bind_eq_error.mp failed with inFanIn | ⟨fanIn, quotient, failed⟩
  · exact Code.config_of_fanIn inFanIn
  · simp only [throw_eq, error_bind] at failed
    split at failed
    · exact ⟨_, (Except.error.inj failed).symm⟩
    · split at failed
      · exact ⟨_, (Except.error.inj failed).symm⟩
      · rw [divide_eq (Code.fanIn_eq_ok.mp quotient).toUInt32_ne_zero, ok_bind] at failed
        simp only at failed
        split at failed
        · exact ⟨_, (Except.error.inj failed).symm⟩
        · cases failed

theorem Cluster.foreseen_of_validate {cluster : Cluster} {code : Code} {error : Error}
    (failed : cluster.validate code = .error error) : error.IsForeseen := by
  obtain ⟨cause, rfl⟩ := config_of_validate failed
  trivial

/-! ### The check of the artifacts -/

namespace Reconciliation

section Check

variable {stripes : UInt32} {fanIn width index : Nat} {taken : List StripeId} {error : Error}

theorem mismatch_of_consume {contributing : List StripeId}
    (failed : consume stripes index taken contributing = .error error) :
    ∃ cause, error = .artifactMismatch cause := by
  induction contributing generalizing taken with
  | nil => cases failed
  | cons stripe contributing ih =>
      unfold consume at failed
      split at failed
      · exact ⟨_, (Except.error.inj failed).symm⟩
      · split at failed
        · exact ⟨_, (Except.error.inj failed).symm⟩
        · exact ih failed

theorem mismatch_of_checkGroup {group : StripeGroup} {row : List NodeId}
    (failed : checkGroup fanIn width index group row = .error error) :
    ∃ cause, error = .artifactMismatch cause := by
  unfold checkGroup at failed
  split at failed
  · exact ⟨_, (Except.error.inj failed).symm⟩
  · split at failed
    · exact ⟨_, (Except.error.inj failed).symm⟩
    · cases failed

theorem mismatch_of_checkGroups {pairs : List (StripeGroup × List NodeId)}
    (failed : checkGroups stripes fanIn width index taken pairs = .error error) :
    ∃ cause, error = .artifactMismatch cause := by
  induction pairs generalizing index taken with
  | nil => cases failed
  | cons pair pairs ih =>
      rcases bind_eq_error.mp failed with inGroup | ⟨_, _, failed⟩
      · exact mismatch_of_checkGroup inGroup
      · rcases bind_eq_error.mp failed with inConsume | ⟨_, _, failed⟩
        · exact mismatch_of_consume inConsume
        · exact ih failed

end Check

variable {input : Reconciliation} {fanIn : UInt16} {error : Error}

theorem mismatch_of_checkArtifacts (admits : input.cluster.Admits input.code fanIn)
    (failed : input.checkArtifacts fanIn = .error error) :
    ∃ cause, error = .artifactMismatch cause := by
  obtain ⟨stripes, counted, -⟩ := admits.stripesAfter_eq
  unfold checkArtifacts at failed
  simp only [counted, ok_bind, throw_eq, error_bind] at failed
  split at failed
  · exact ⟨_, (Except.error.inj failed).symm⟩
  · split at failed
    · exact ⟨_, (Except.error.inj failed).symm⟩
    · rcases bind_eq_error.mp failed with inGroups | ⟨_, _, impossible⟩
      · exact mismatch_of_checkGroups inGroups
      · cases impossible

theorem foreseen_of_checkArtifacts (admits : input.cluster.Admits input.code fanIn)
    (failed : input.checkArtifacts fanIn = .error error) : error.IsForeseen := by
  obtain ⟨cause, rfl⟩ := mismatch_of_checkArtifacts admits failed
  trivial

theorem Uncarried.isForeseen {source : BlockKey} (uncarried : Uncarried input source error) :
    error.IsForeseen := by
  cases uncarried <;> trivial

end Reconciliation

/-- A reconciliation never stops with a fault or with what should never happen. -/
theorem foreseen_of_reconcile {available : Nat} {input : Reconciliation} {error : Error}
    (failed : reconcile available input = .error error) : error.IsForeseen := by
  cases validated : input.cluster.validate input.code with
  | error cause =>
      have same : cause = error := by simpa [reconcile, validated] using failed
      exact same ▸ Cluster.foreseen_of_validate validated
  | ok fanIn =>
      cases agreed : input.checkArtifacts fanIn with
      | error cause =>
          have same : cause = error := by simpa [reconcile, validated, agreed] using failed
          have admits := Cluster.validate_eq_ok.mp validated
          exact same ▸ foreseen_of_checkArtifacts admits agreed
      | ok outcome =>
          have checked := checks_eq_ok.mp ⟨validated, agreed⟩
          obtain ⟨index, ⟨group, inGroups, fails⟩, -⟩ :=
            (reconcile_eq_error_of_checked checked available error).mp failed
          obtain ⟨_, _, -, uncarried⟩ := uncarried_of_reconcileStripe checked inGroups fails
          exact uncarried.isForeseen

/-! ### The text of the table -/

namespace ProvenanceTable

variable {table : ProvenanceTable} {error : Error}

theorem unwritable_of_renderEntry {entry : Entry} (failed : renderEntry entry = .error error) :
    error.IsUnwritable := by
  unfold renderEntry at failed
  cases stored : entry.location with
  | pending source =>
      rw [stored] at failed
      cases source <;> cases failed
  | stored path =>
      simp only [stored, locationToken] at failed
      cases accepted : pathToken? path with
      | some token =>
          rw [accepted] at failed
          cases failed
      | none =>
          rw [accepted] at failed
          refine ⟨entry.key, path, (Except.error.inj failed).symm, fun token spells => ?_⟩
          rw [pathToken?_eq_some.mpr spells] at accepted
          cases accepted

/-- A table is not written only because of a path that is no token. -/
theorem unwritable_of_render (failed : table.render = .error error) : error.IsUnwritable := by
  rcases bind_eq_error.mp failed with inEntries | ⟨_, _, impossible⟩
  · obtain ⟨entry, -, failed⟩ := exists_of_mapM_error inEntries
    exact unwritable_of_renderEntry failed
  · cases impossible

end ProvenanceTable

end Restripe
