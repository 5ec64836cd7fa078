import Mathlib.Data.Set.Function
import Restripe.Proofs.Reconcile.Table

/-!
# No data block is lost

The blocks of a new stripe are numbered through the data of its contributing stripes, one stripe
after the other.  As every old stripe contributes at one position of one group, every old data block
is carried over, and only once.
-/

namespace Restripe

namespace Reconciliation

/-- The data blocks of the old stripes. -/
def oldData (input : Reconciliation) : Set BlockKey :=
  {key | key.stripe.toNat < input.cluster.stripes.toNat ∧
    key.block.toNat < input.code.dataBefore.toNat}

/-- The data blocks of the new stripes. -/
def newData (input : Reconciliation) : Set BlockKey :=
  {key | key.stripe.toNat < input.cluster.stripes.toNat /
      (input.code.dataAfter.toNat / input.code.dataBefore.toNat) ∧
    key.block.toNat < input.code.dataAfter.toNat}

/-- What an entry says of the old block that it carries over.  An outside catalog that knows where
the block is, or is waited for, is told of it; otherwise the file of the block keeps its name and is
in the directory of the node of the entry. -/
inductive Carries (input : Reconciliation) (old : BlockKey) (entry : Entry) : Prop where
  | told
      (awaited : input.managed = true ∨ ∃ before origin, input.before.find? old = some before ∧
        before.location = .pending origin)
      (location : entry.location = .pending (some old))
  | moved {before : Entry} {path : Path} {name : Bytes}
      (unmanaged : input.managed = false)
      (recorded : input.before.find? old = some before)
      (stored : before.location = .stored path)
      (named : path.fileName? = some name)
      (location : entry.location = .stored (relocatedPath input.dataDirectory entry.node name))

variable {input : Reconciliation} {fanIn : UInt16} {group : StripeGroup} {key source : BlockKey}

theorem Located.carries {entry : Entry} (located : Located input entry)
    (isData : entry.key.block < input.code.dataAfter)
    (found : input.source? entry.key = some source) : Carries input source entry := by
  have notParity := UInt16.not_le.mpr isData
  cases located with
  | entrusted _ carried managed location =>
      obtain rfl := Option.some.inj (found.symm.trans carried)
      exact .told (.inl managed) location
  | deferred _ carried _ recorded pending location =>
      obtain rfl := Option.some.inj (found.symm.trans carried)
      exact .told (.inr ⟨_, _, recorded, pending⟩) location
  | moved _ carried unmanaged recorded stored named location =>
      obtain rfl := Option.some.inj (found.symm.trans carried)
      exact .moved unmanaged recorded stored named location
  | announced isParity _ _ => exact absurd isParity notParity
  | minted isParity _ _ => exact absurd isParity notParity

theorem mem_oldData :
    key ∈ input.oldData ↔ key.stripe.toNat < input.cluster.stripes.toNat ∧
      key.block.toNat < input.code.dataBefore.toNat :=
  Iff.rfl

/-- A source is a position among the contributing stripes and a block of the stripe there. -/
theorem source?_eq_some :
    input.source? key = some source ↔
      ∃ group, input.groups[key.stripe.toNat]? = some group ∧
        group.contributing[key.block.toNat / input.code.dataBefore.toNat]? = some source.stripe ∧
        key.block % input.code.dataBefore = source.block := by
  simp only [source?, StripeGroup.source?, Option.bind_eq_bind, Option.bind_eq_some_iff,
    Option.map_eq_some_iff]
  constructor
  · rintro ⟨group, inGroups, stripe, contributes, rfl⟩
    exact ⟨group, inGroups, contributes, rfl⟩
  · rintro ⟨group, inGroups, contributes, index⟩
    exact ⟨group, inGroups, source.stripe, contributes, by rw [index]⟩

theorem mem_consumed {index position : Nat} {stripe : StripeId}
    (inGroups : input.groups[index]? = some group)
    (contributes : group.contributing[position]? = some stripe) : stripe ∈ input.consumed :=
  List.mem_flatMap.mpr ⟨group, List.mem_of_getElem? inGroups, List.mem_of_getElem? contributes⟩

namespace Checked

variable (checked : input.Checked fanIn)

include checked

theorem mem_newData :
    key ∈ input.newData ↔
      key.stripe.toNat < input.groups.length ∧ key.block < input.code.dataAfter := by
  rw [checked.length_groups, checked.admits.fanIn_eq, UInt16.lt_iff_toNat_lt]
  rfl

theorem exists_source? (isNew : key ∈ input.newData) :
    ∃ source, input.source? key = some source := by
  obtain ⟨stripeBound, isData⟩ := checked.mem_newData.mp isNew
  have inGroups := List.getElem?_eq_getElem stripeBound
  have contributing := checked.length_contributing _ (List.mem_of_getElem? inGroups)
  obtain ⟨source, found⟩ := exists_source checked.admits.toWhole contributing isData
  exact ⟨source, by simp [source?, inGroups, found]⟩

theorem source?_mem_oldData (found : input.source? key = some source) :
    source ∈ input.oldData := by
  obtain ⟨group, inGroups, contributes, index⟩ := source?_eq_some.mp found
  constructor
  · exact UInt32.lt_iff_toNat_lt.mp
      (checked.known _ (mem_consumed inGroups contributes))
  · rw [← index, UInt16.toNat_mod]
    exact Nat.mod_lt _ checked.admits.dataBefore_pos

/-- A stripe contributes at one position of one group. -/
theorem position_unique {left right : StripeGroup} {leftIndex rightIndex first second : Nat}
    {stripe : StripeId} (inLeft : input.groups[leftIndex]? = some left)
    (inRight : input.groups[rightIndex]? = some right)
    (atFirst : left.contributing[first]? = some stripe)
    (atSecond : right.contributing[second]? = some stripe) :
    leftIndex = rightIndex ∧ first = second := by
  obtain ⟨within, apart⟩ := List.nodup_flatMap.mp checked.distinct
  obtain ⟨leftBound, rfl⟩ := List.getElem?_eq_some_iff.mp inLeft
  obtain ⟨rightBound, rfl⟩ := List.getElem?_eq_some_iff.mp inRight
  have inFirst := List.mem_of_getElem? atFirst
  have inSecond := List.mem_of_getElem? atSecond
  rw [List.pairwise_iff_getElem] at apart
  rcases Nat.lt_trichotomy leftIndex rightIndex with less | rfl | greater
  · exact absurd inSecond (apart leftIndex rightIndex leftBound rightBound less inFirst)
  · refine ⟨rfl, ?_⟩
    have bound := (List.getElem?_eq_some_iff.mp atFirst).1
    exact (List.getElem?_inj bound (within _ (List.getElem_mem leftBound))).mp
      (atFirst.trans atSecond.symm)
  · exact absurd inFirst (apart rightIndex leftIndex rightBound leftBound greater inSecond)

theorem exists_position {stripe : StripeId}
    (bound : stripe.toNat < input.cluster.stripes.toNat) :
    ∃ (index : Nat) (group : StripeGroup) (position : Nat), input.groups[index]? = some group ∧
      group.contributing[position]? = some stripe := by
  have inRange := checked.consumed_perm.mem_iff.mpr (List.mem_range.mpr bound)
  obtain ⟨other, consumes, same⟩ := List.mem_map.mp inRange
  obtain rfl := UInt32.toNat_inj.mp same
  obtain ⟨group, member, inGroup⟩ := List.mem_flatMap.mp consumes
  obtain ⟨index, inGroups⟩ := List.mem_iff_getElem?.mp member
  obtain ⟨position, contributes⟩ := List.mem_iff_getElem?.mp inGroup
  exact ⟨index, group, position, inGroups, contributes⟩

theorem source?_inj {left right : BlockKey} (leftFound : input.source? left = some source)
    (rightFound : input.source? right = some source) : left = right := by
  obtain ⟨leftGroup, inLeft, atFirst, leftIndex⟩ := source?_eq_some.mp leftFound
  obtain ⟨rightGroup, inRight, atSecond, rightIndex⟩ := source?_eq_some.mp rightFound
  obtain ⟨stripes, positions⟩ := checked.position_unique inLeft inRight atFirst atSecond
  have remainders := congrArg UInt16.toNat (leftIndex.trans rightIndex.symm)
  rw [UInt16.toNat_mod, UInt16.toNat_mod] at remainders
  have blocks : left.block.toNat = right.block.toNat := by
    rw [← Nat.div_add_mod left.block.toNat, ← Nat.div_add_mod right.block.toNat, positions,
      remainders]
  exact BlockKey.eq_of_toNat_eq stripes blocks

/-- The new block that comes from a block of a contributing stripe is at the same index after the
data of the stripes before it. -/
theorem source?_ofIndices {index position : Nat} (inGroups : input.groups[index]? = some group)
    (contributes : group.contributing[position]? = some source.stripe)
    (inStripe : source.block.toNat < input.code.dataBefore.toNat) :
    .ofIndices index (input.code.dataBefore.toNat * position + source.block.toNat) ∈
        input.newData ∧
      input.source? (.ofIndices index
        (input.code.dataBefore.toNat * position + source.block.toNat)) = some source := by
  generalize equation :
    input.code.dataBefore.toNat * position + source.block.toNat = block
  have bound : block < input.code.dataAfter.toNat := by
    have positionBound := (List.getElem?_eq_some_iff.mp contributes).1
    rw [checked.length_contributing group (List.mem_of_getElem? inGroups)] at positionBound
    rw [← equation, checked.admits.dataAfter_eq]
    exact Nat.mul_add_lt_mul_of_lt_of_lt positionBound inStripe
  have stripeValue := BlockKey.toNat_stripe_ofIndices (checked.stripe_lt inGroups) block
  have blockValue := BlockKey.toNat_block_ofIndices index
    (Nat.lt_trans bound input.code.dataAfter.toNat_lt)
  have quotient : block / input.code.dataBefore.toNat = position := by
    rw [← equation, Nat.mul_add_div checked.admits.dataBefore_pos, Nat.div_eq_of_lt inStripe,
      Nat.add_zero]
  have remainder : block % input.code.dataBefore.toNat = source.block.toNat := by
    rw [← equation, Nat.mul_add_mod, Nat.mod_eq_of_lt inStripe]
  constructor
  · rw [checked.mem_newData, stripeValue, UInt16.lt_iff_toNat_lt, blockValue]
    exact ⟨(List.getElem?_eq_some_iff.mp inGroups).1, bound⟩
  · refine source?_eq_some.mpr ⟨group, ?_, ?_, ?_⟩
    · rw [stripeValue, inGroups]
    · rw [blockValue, quotient, contributes]
    · rw [← UInt16.toNat_inj, UInt16.toNat_mod, blockValue, remainder]

theorem exists_of_mem_oldData (isOld : source ∈ input.oldData) :
    ∃ key ∈ input.newData, input.source? key = some source := by
  obtain ⟨stripeBound, inStripe⟩ := mem_oldData.mp isOld
  obtain ⟨index, group, position, inGroups, contributes⟩ := checked.exists_position stripeBound
  exact ⟨_, checked.source?_ofIndices inGroups contributes inStripe⟩

/-- Working out the source of a block takes it from the group of its stripe. -/
theorem sourceKey_of_source? (found : input.source? key = some source) :
    ∃ group, input.groups[key.stripe.toNat]? = some group ∧
      sourceKey input.code group key.block = .ok source := by
  obtain ⟨group, inGroups, found⟩ := Option.bind_eq_some_iff.mp found
  exact ⟨group, inGroups, sourceKey_eq_ok checked.admits.dataBefore_pos found⟩

/-- Taking a new data block to its source is a bijection onto the old data blocks. -/
theorem bijOn_of_source? {source : BlockKey → BlockKey}
    (agrees : ∀ key ∈ input.newData, input.source? key = some (source key)) :
    Set.BijOn source input.newData input.oldData := by
  refine ⟨?_, ?_, ?_⟩
  · intro key isNew
    exact checked.source?_mem_oldData (agrees key isNew)
  · intro left leftNew right rightNew same
    have leftFound := agrees left leftNew
    rw [same] at leftFound
    exact checked.source?_inj leftFound (agrees right rightNew)
  · intro old isOld
    obtain ⟨key, isNew, found⟩ := checked.exists_of_mem_oldData isOld
    exact ⟨key, isNew, Option.some.inj ((agrees key isNew).symm.trans found)⟩

end Checked

end Reconciliation

open Reconciliation

variable {available : Nat} {input : Reconciliation} {result : Reconciled}

theorem mem_newData_of_reconcile (success : reconcile available input = .ok result) {entry : Entry}
    (member : entry ∈ result.table.entries) :
    entry.key ∈ input.newData ↔ entry.key.block < input.code.dataAfter := by
  obtain ⟨stripeBound, -⟩ := (contains_of_reconcile success).mp
    (ProvenanceTable.contains_eq_true.mpr ⟨entry, member, rfl⟩)
  rw [UInt16.lt_iff_toNat_lt]
  exact ⟨And.right, fun isData => ⟨stripeBound, isData⟩⟩

/-- Every old data block is carried over into one entry. -/
theorem existsUnique_entry_of_reconcile (success : reconcile available input = .ok result)
    {old : BlockKey} (isOld : old ∈ input.oldData) :
    ∃! entry, entry ∈ result.table.entries ∧ entry.key.block < input.code.dataAfter ∧
      input.source? entry.key = some old := by
  obtain ⟨fanIn, checked⟩ := checked_of_reconcile success
  obtain ⟨key, isNew, found⟩ := checked.exists_of_mem_oldData isOld
  obtain ⟨entry, member, rfl⟩ := ProvenanceTable.contains_eq_true.mp
    ((contains_of_reconcile success).mpr ⟨isNew.1, Nat.lt_add_right _ isNew.2⟩)
  refine ⟨entry, ⟨member, (mem_newData_of_reconcile success member).mp isNew, found⟩, ?_⟩
  rintro other ⟨otherMember, -, otherFound⟩
  exact result.table.eq_of_key_eq otherMember member (checked.source?_inj otherFound found)

/-- Taking a new data block to its source, as it is worked out from the group of its stripe, is a
bijection onto the old data blocks.  The entry of a new data block says where its source has gone,
and each old data block is carried over into one entry. -/
theorem reconcile_keeps_data (success : reconcile available input = .ok result) :
    (∃ source : BlockKey → BlockKey,
      (∀ key ∈ input.newData, input.source? key = some (source key) ∧
        ∃ group, input.groups[key.stripe.toNat]? = some group ∧
          sourceKey input.code group key.block = .ok (source key)) ∧
      Set.BijOn source input.newData input.oldData ∧
      ∀ entry ∈ result.table.entries, entry.key ∈ input.newData →
        Carries input (source entry.key) entry) ∧
    ∀ old ∈ input.oldData, ∃! entry, entry ∈ result.table.entries ∧
      entry.key.block < input.code.dataAfter ∧ input.source? entry.key = some old := by
  obtain ⟨fanIn, checked⟩ := checked_of_reconcile success
  have agrees : ∀ key ∈ input.newData,
      input.source? key = some ((input.source? key).getD key) := by
    intro key isNew
    obtain ⟨source, found⟩ := checked.exists_source? isNew
    rw [found, Option.getD_some]
  constructor
  · refine ⟨fun key => (input.source? key).getD key, ?_, checked.bijOn_of_source? agrees, ?_⟩
    · intro key isNew
      exact ⟨agrees key isNew, checked.sourceKey_of_source? (agrees key isNew)⟩
    · intro entry member isNew
      have isData := (mem_newData_of_reconcile success member).mp isNew
      exact (located_of_reconcile success member).2.carries isData (agrees entry.key isNew)
  · intro old isOld
    exact existsUnique_entry_of_reconcile success isOld

theorem reconcile_keeps_data_swapped :
    ∃ result, reconcile 1 swapped = .ok result ∧
      (∃ source : BlockKey → BlockKey, Set.BijOn source swapped.newData swapped.oldData ∧
        ∀ entry ∈ result.table.entries, entry.key ∈ swapped.newData →
          Carries swapped (source entry.key) entry) ∧
      ∀ old ∈ swapped.oldData, ∃! entry, entry ∈ result.table.entries ∧
        entry.key.block < 2 ∧ swapped.source? entry.key = some old := by
  obtain ⟨result, success⟩ := Outcome.exists_eq_ok (reconcile 1 swapped) (by decide)
  obtain ⟨⟨source, -, bijective, carries⟩, once⟩ := reconcile_keeps_data success
  exact ⟨result, success, ⟨source, bijective, carries⟩, once⟩

end Restripe
