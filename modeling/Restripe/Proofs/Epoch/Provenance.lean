import Restripe.Epoch
import Restripe.Proofs.Metadata.Placement
import Restripe.Proofs.Metadata.Provenance
import Restripe.Proofs.Path

/-!
# What the first table records

The table of a new epoch has an entry for every block of the placement and no other.  The entry is
on the node that the placement says and stored in the file that is named for the block.
-/

namespace Restripe

open Outcome

/-- An entry of a new epoch is stored under the first name of its block. -/
def Entry.Initial (dataDirectory : Path) (entry : Entry) : Prop :=
  entry.location = .stored (initialBlockPath dataDirectory entry.node entry.key)

variable {dataDirectory : Path} {placement : Placement} {entry : Entry}

theorem initialEntry_eq_ok {stripe : StripeId} {node : NodeId} {index : Nat} :
    initialEntry dataDirectory stripe node index = .ok entry ↔
      entry.key.stripe = stripe ∧ entry.key.block.toNat = index ∧ entry.node = node ∧
        entry.Initial dataDirectory := by
  simp only [initialEntry, bind_eq_ok, blockAt_eq_ok, pure_eq, Except.ok.injEq, Entry.Initial]
  constructor
  · rintro ⟨block, position, rfl⟩
    exact ⟨rfl, position, rfl, rfl⟩
  · rintro ⟨rfl, position, rfl, stored⟩
    exact ⟨entry.key.block, position, by rw [← stored]⟩

theorem mem_initialRow {nodes : List NodeId} {index : Nat} {entries : List Entry}
    (success : initialRow dataDirectory nodes index = .ok entries) :
    entry ∈ entries ↔ entry.key.stripe.toNat = index ∧
      nodes[entry.key.block.toNat]? = some entry.node ∧ entry.Initial dataDirectory := by
  obtain ⟨stripe, numbered, traversal⟩ := bind_eq_ok.mp success
  obtain rfl := stripeAt_eq_ok.mp numbered
  simp only [mem_of_mapM traversal, Prod.exists, initialEntry_eq_ok,
    List.mk_mem_zipIdx_iff_getElem?, UInt32.toNat_inj]
  constructor
  · rintro ⟨node, block, inRow, stripes, rfl, rfl, initial⟩
    exact ⟨stripes, inRow, initial⟩
  · rintro ⟨stripes, inRow, initial⟩
    exact ⟨_, _, inRow, stripes, rfl, rfl, initial⟩

/-- The table of a new epoch has the blocks of its placement, stored under their first names. -/
theorem mem_initialProvenance {table : ProvenanceTable}
    (success : initialProvenance dataDirectory placement = .ok table) :
    entry ∈ table.entries ↔
      placement.holder? entry.key = some entry.node ∧ entry.Initial dataDirectory := by
  obtain ⟨entries, collected, built⟩ := bind_eq_ok.mp success
  obtain ⟨rows, traversal, flattened⟩ := bind_eq_ok.mp collected
  obtain rfl := Except.ok.inj flattened
  rw [ProvenanceTable.mem_of_foldlM_insert built, List.mem_flatten, Placement.holder?_eq_some]
  constructor
  · rintro ⟨row, inRows, member⟩
    obtain ⟨⟨nodes, index⟩, inPlacement, step⟩ := (mem_of_mapM traversal row).mp inRows
    obtain ⟨rfl, inRow, initial⟩ := (mem_initialRow step).mp member
    exact ⟨⟨nodes, List.mk_mem_zipIdx_iff_getElem?.mp inPlacement, inRow⟩, initial⟩
  · rintro ⟨⟨nodes, found, inRow⟩, initial⟩
    have inPlacement := List.mk_mem_zipIdx_iff_getElem?.mpr found
    obtain ⟨row, step⟩ := exists_of_mem_mapM traversal inPlacement
    exact ⟨row, (mem_of_mapM traversal row).mpr ⟨_, inPlacement, step⟩,
      (mem_initialRow step).mpr ⟨rfl, inRow, initial⟩⟩

theorem contains_initialProvenance {table : ProvenanceTable}
    (success : initialProvenance dataDirectory placement = .ok table) {key : BlockKey} :
    table.contains key = true ↔ ∃ node, placement.holder? key = some node := by
  rw [ProvenanceTable.contains_eq_true]
  constructor
  · intro recorded
    obtain ⟨entry, member, same⟩ := recorded
    exact ⟨entry.node, same ▸ ((mem_initialProvenance success).mp member).1⟩
  · intro held
    obtain ⟨node, holder⟩ := held
    exact ⟨⟨key, node, .stored (initialBlockPath dataDirectory node key)⟩,
      (mem_initialProvenance success).mpr ⟨holder, rfl⟩, rfl⟩

/-! ## The table exists -/

theorem exists_initialRow {index : Nat} {nodes : List NodeId} (stripe : index < UInt32.size)
    (width : nodes.length ≤ UInt16.size) :
    ∃ entries, initialRow dataDirectory nodes index = .ok entries := by
  have numbered : stripeAt index = .ok (UInt32.ofNat index) :=
    stripeAt_eq_ok.mpr (UInt32.toNat_ofNat_of_lt' stripe)
  rw [initialRow, numbered, ok_bind]
  refine exists_mapM fun place member => ?_
  have bound := (List.getElem?_eq_some_iff.mp (List.mk_mem_zipIdx_iff_getElem?.mp member)).1
  have counted : (UInt16.ofNat place.2).toNat = place.2 :=
    UInt16.toNat_ofNat_of_lt' (Nat.lt_of_lt_of_le bound width)
  let key : BlockKey := ⟨UInt32.ofNat index, UInt16.ofNat place.2⟩
  exact ⟨⟨key, place.1, .stored (initialBlockPath dataDirectory place.1 key)⟩,
    initialEntry_eq_ok.mpr ⟨rfl, counted, rfl, rfl⟩⟩

theorem keys_initialRow {index : Nat} {nodes : List NodeId} {entries : List Entry}
    (success : initialRow dataDirectory nodes index = .ok entries) :
    entries.map Entry.key = Placement.rowKeys index nodes.length := by
  obtain ⟨stripe, numbered, traversal⟩ := bind_eq_ok.mp success
  have isStripe := stripeAt_eq_ok.mp numbered
  rw [← Placement.map_ofIndices_zipIdx]
  refine map_of_mapM traversal fun place _ entry step => ?_
  obtain ⟨stripes, blocks, _⟩ := initialEntry_eq_ok.mp step
  rw [← isStripe, ← blocks, ← stripes, BlockKey.ofIndices_toNat]

/-- A table is made of every placement whose blocks have keys. -/
theorem exists_initialProvenance (fits : placement.Addressable) (dataDirectory : Path) :
    ∃ table, initialProvenance dataDirectory placement = .ok table := by
  obtain ⟨rows, traversal⟩ : ∃ rows, placement.zipIdx.mapM (fun place =>
      initialRow dataDirectory place.1 place.2) = .ok rows := by
    refine exists_mapM fun place member => ?_
    obtain ⟨stripe, width⟩ := fits.of_mem_zipIdx member
    exact exists_initialRow stripe width
  have keys : rows.flatten.map Entry.key = placement.keys := by
    rw [List.map_flatten, Placement.keys, List.flatMap_def,
      map_of_mapM traversal fun place _ entries step => keys_initialRow step]
  have distinct : (rows.flatten.map Entry.key).Nodup := by
    rw [keys]
    exact Placement.keys_nodup fits
  obtain ⟨table, built⟩ : ∃ table, rows.flatten.foldlM ProvenanceTable.insert .empty = .ok table :=
    ProvenanceTable.exists_foldlM_insert distinct
  have collected : initialEntries dataDirectory placement = .ok rows.flatten :=
    bind_eq_ok.mpr ⟨rows, traversal, rfl⟩
  exact ⟨table, bind_eq_ok.mpr ⟨rows.flatten, collected, built⟩⟩

/-!
## Reading a placement back

The first table of an epoch is an image of its placement: it has one entry for every place of the
placement, whatever the widths of the rows are and however often a node occurs.  So the nodes of a
row are read back as those of the entries of its stripe, in their order.
-/

/-- The nodes that a table records of a stripe, in the order of their blocks. -/
def ProvenanceTable.nodesOf (table : ProvenanceTable) (stripe : StripeId) : List NodeId :=
  (table.entries.filter (·.key.stripe = stripe)).map Entry.node

/-- Keys in ascending order are determined by which keys they are. -/
theorem BlockKey.eq_of_ascending {left right : List BlockKey} (leftAscends : left.Pairwise (· < ·))
    (rightAscends : right.Pairwise (· < ·)) (same : ∀ key, key ∈ left ↔ key ∈ right) :
    left = right := by
  have distinct {keys : List BlockKey} (ascends : keys.Pairwise (· < ·)) : keys.Nodup := by
    refine ascends.imp ?_
    rintro key _ less rfl
    exact lt_irrefl key less
  have perm : left.Perm right :=
    (List.perm_ext_iff_of_nodup (distinct leftAscends) (distinct rightAscends)).mpr same
  refine perm.eq_of_pairwise ?_ leftAscends rightAscends
  intro earlier later _ _ less greater
  exact absurd (lt_trans less greater) (lt_irrefl earlier)

/-! ### Rows -/

namespace Placement

/-- The nodes of a stripe; there are none where there is no such stripe. -/
def row (placement : Placement) (stripe : StripeId) : List NodeId :=
  placement[stripe.toNat]?.getD []

theorem holder?_eq_row (placement : Placement) (key : BlockKey) :
    placement.holder? key = (placement.row key.stripe)[key.block.toNat]? := by
  unfold holder? row
  cases placement[key.stripe.toNat]? <;> rfl

theorem Addressable.length_row_le (fits : placement.Addressable) (stripe : StripeId) :
    (placement.row stripe).length ≤ UInt16.size := by
  unfold row
  cases found : placement[stripe.toNat]? with
  | none => exact Nat.zero_le _
  | some nodes => exact fits.blocks nodes (List.mem_of_getElem? found)

theorem ascending_rowKeys (stripe : Nat) {width : Nat} (widthFits : width ≤ UInt16.size) :
    (rowKeys stripe width).Pairwise (· < ·) := by
  refine List.pairwise_map.mpr (List.pairwise_lt_range.imp_of_mem ?_)
  intro left right leftBound rightBound less
  rw [List.mem_range] at leftBound rightBound
  refine BlockKey.lt_def.mpr (.inr ⟨rfl, UInt16.lt_iff_toNat_lt.mpr ?_⟩)
  rwa [BlockKey.toNat_block_ofIndices stripe (show left < UInt16.size by omega),
    BlockKey.toNat_block_ofIndices stripe (show right < UInt16.size by omega)]

theorem map_holder?_rowKeys (fits : placement.Addressable) (stripe : StripeId) :
    (rowKeys stripe.toNat (placement.row stripe).length).map placement.holder? =
      (placement.row stripe).map some := by
  have width := fits.length_row_le stripe
  refine List.ext_getElem (by simp [rowKeys]) fun index bound _ => ?_
  have inRow : index < (placement.row stripe).length := by simpa [rowKeys] using bound
  have block := BlockKey.toNat_block_ofIndices stripe.toNat (show index < UInt16.size by omega)
  simp only [rowKeys, List.getElem_map, List.getElem_range, holder?_eq_row, block]
  simp [BlockKey.ofIndices, inRow]

end Placement

/-! ### The image -/

section Image

variable {table : ProvenanceTable}

/-- The entries of a stripe are those of its blocks, in their order. -/
theorem keys_filter_initialProvenance (fits : placement.Addressable)
    (success : initialProvenance dataDirectory placement = .ok table) (stripe : StripeId) :
    (table.entries.filter (·.key.stripe = stripe)).map Entry.key =
      Placement.rowKeys stripe.toNat (placement.row stripe).length := by
  have width := fits.length_row_le stripe
  have tableAscends : ((table.entries.filter (·.key.stripe = stripe)).map Entry.key).Pairwise
      (· < ·) :=
    List.pairwise_map.mpr (table.ascending.filter _)
  have rowAscends := Placement.ascending_rowKeys stripe.toNat width
  have sameKeys : ∀ key, key ∈ (table.entries.filter (·.key.stripe = stripe)).map Entry.key ↔
      key ∈ Placement.rowKeys stripe.toNat (placement.row stripe).length := by
    intro key
    have recorded : table.contains key = true ↔ ∃ node, placement.holder? key = some node :=
      contains_initialProvenance success
    rw [ProvenanceTable.contains_eq_true, Placement.holder?_eq_row] at recorded
    rw [Placement.mem_rowKeys stripe.toNat_lt width, UInt32.toNat_inj, List.mem_map]
    simp only [List.mem_filter, decide_eq_true_eq]
    constructor
    · rintro ⟨entry, ⟨member, rfl⟩, rfl⟩
      obtain ⟨node, inRow⟩ := recorded.mp ⟨entry, member, rfl⟩
      exact ⟨rfl, (List.getElem?_eq_some_iff.mp inRow).1⟩
    · rintro ⟨rfl, inRow⟩
      obtain ⟨entry, member, rfl⟩ := recorded.mpr ⟨_, List.getElem?_eq_getElem inRow⟩
      exact ⟨entry, ⟨member, rfl⟩, rfl⟩
  exact BlockKey.eq_of_ascending tableAscends rowAscends sameKeys

theorem nodesOf_initialProvenance (fits : placement.Addressable)
    (success : initialProvenance dataDirectory placement = .ok table) (stripe : StripeId) :
    table.nodesOf stripe = placement.row stripe := by
  have holders : (table.entries.filter (·.key.stripe = stripe)).map (some ∘ Entry.node) =
      (table.entries.filter (·.key.stripe = stripe)).map (placement.holder? ∘ Entry.key) := by
    refine List.map_congr_left fun entry member => ?_
    exact ((mem_initialProvenance success).mp (List.mem_of_mem_filter member)).1.symm
  have nodes : (table.nodesOf stripe).map some = (placement.row stripe).map some := by
    calc
      (table.nodesOf stripe).map some
        = ((table.entries.filter (·.key.stripe = stripe)).map Entry.key).map placement.holder? := by
          rw [ProvenanceTable.nodesOf, List.map_map, holders, List.map_map]
      _ = (placement.row stripe).map some := by
          rw [keys_filter_initialProvenance fits success, Placement.map_holder?_rowKeys fits]
  exact List.map_injective_iff.mpr (Option.some_injective _) nodes

/-- The paths of initial blocks have the same components only if they are the same block. -/
theorem Entry.Initial.key_eq {left right : Entry} (leftInitial : left.Initial dataDirectory)
    (rightInitial : right.Initial dataDirectory) {leftPath rightPath : Path}
    (leftStored : left.location = .stored leftPath)
    (rightStored : right.location = .stored rightPath)
    (same : leftPath.components = rightPath.components) : left.key = right.key := by
  obtain rfl := Location.stored.inj (leftInitial.symm.trans leftStored)
  obtain rfl := Location.stored.inj (rightInitial.symm.trans rightStored)
  have names := Path.fileName?_congr same
  rw [fileName?_initialBlockPath, fileName?_initialBlockPath] at names
  exact initialBlockName_injective (Option.some.inj names)

/-- A placement has a first table, which has exactly one entry for every place of the placement and
no other.  The entry is on the node at that place, in the file that is named for the place in the
directory of the node; no two entries share a file; and every row is read back from the table. -/
theorem initialProvenance_image (fits : placement.Addressable) (dataDirectory : Path) :
    ∃ table, initialProvenance dataDirectory placement = .ok table ∧
      (∀ row nodes column node, placement[row]? = some nodes → nodes[column]? = some node →
        ∃! entry, entry ∈ table.entries ∧ entry.key.stripe.toNat = row ∧
          entry.key.block.toNat = column) ∧
      (∀ entry ∈ table.entries, ∃ nodes, placement[entry.key.stripe.toNat]? = some nodes ∧
        nodes[entry.key.block.toNat]? = some entry.node ∧
        entry.location = .stored (initialBlockPath dataDirectory entry.node entry.key)) ∧
      (∀ left ∈ table.entries, ∀ right ∈ table.entries, ∀ leftPath rightPath,
        left.location = .stored leftPath → right.location = .stored rightPath →
          leftPath.components = rightPath.components → left = right) ∧
      ∀ stripe, table.nodesOf stripe = placement.row stripe := by
  obtain ⟨table, success⟩ := exists_initialProvenance fits dataDirectory
  refine ⟨table, success, ?_, ?_, ?_, nodesOf_initialProvenance fits success⟩
  · intro row nodes column node inPlacement inRow
    have rowBound := (List.getElem?_eq_some_iff.mp inPlacement).1
    have columnBound := (List.getElem?_eq_some_iff.mp inRow).1
    have width := fits.blocks nodes (List.mem_of_getElem? inPlacement)
    have stripes := BlockKey.toNat_stripe_ofIndices
      (Nat.lt_of_lt_of_le rowBound fits.stripes) column
    have blocks := BlockKey.toNat_block_ofIndices row (Nat.lt_of_lt_of_le columnBound width)
    have recorded : table.contains (.ofIndices row column) = true := by
      refine (contains_initialProvenance success).mpr ⟨node, Placement.holder?_eq_some.mpr ?_⟩
      rw [stripes, blocks]
      exact ⟨nodes, inPlacement, inRow⟩
    obtain ⟨entry, member, key⟩ := ProvenanceTable.contains_eq_true.mp recorded
    refine ⟨entry, ⟨member, by rw [key, stripes], by rw [key, blocks]⟩, ?_⟩
    rintro other ⟨otherMember, rfl, rfl⟩
    exact ProvenanceTable.eq_of_key_eq otherMember member (by rw [key, BlockKey.ofIndices_toNat])
  · intro entry member
    obtain ⟨holder, initial⟩ := (mem_initialProvenance success).mp member
    obtain ⟨nodes, inPlacement, inRow⟩ := Placement.holder?_eq_some.mp holder
    exact ⟨nodes, inPlacement, inRow, initial⟩
  · intro left leftMember right rightMember leftPath rightPath leftStored rightStored same
    have leftInitial := ((mem_initialProvenance success).mp leftMember).2
    have rightInitial := ((mem_initialProvenance success).mp rightMember).2
    exact ProvenanceTable.eq_of_key_eq leftMember rightMember
      (leftInitial.key_eq rightInitial leftStored rightStored same)

/-- A placement with rows of several widths, one of them empty, and a node that occurs twice. -/
def ragged : Placement := [[3, 1, 4, 1], [], [5]]

theorem initialProvenance_image_ragged :
    ragged.Addressable ∧
    ∃ table, initialProvenance (.ofString "data") ragged = .ok table ∧
      (∀ left ∈ table.entries, ∀ right ∈ table.entries, ∀ leftPath rightPath,
        left.location = .stored leftPath → right.location = .stored rightPath →
          leftPath.components = rightPath.components → left = right) ∧
      table.nodesOf 0 = [3, 1, 4, 1] ∧ table.nodesOf 1 = [] ∧ table.nodesOf 2 = [5] := by
  have fits : ragged.Addressable := ⟨by decide, by decide⟩
  obtain ⟨table, success, -, -, distinct, rows⟩ := initialProvenance_image fits (.ofString "data")
  exact ⟨fits, table, success, distinct, rows 0, rows 1, rows 2⟩

end Image

end Restripe
