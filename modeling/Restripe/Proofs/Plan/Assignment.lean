import Mathlib.Data.List.Nodup
import Mathlib.Data.List.Perm.Subperm
import Mathlib.Data.List.ReduceOption
import Restripe.Plan
import Restripe.Proofs.Outcome

/-!
# Assigning nodes

The first data block of a new stripe on each node stays there.  The positions that are left, those
of displaced data blocks and then those of parity, take the lowest nodes that no block stays on, in
ascending order.  A cluster with as many nodes as positions never runs out of them, because the
nodes that are kept and the free ones are all nodes of the cluster.
-/

namespace Restripe

open Outcome

/-! ## Numbers below a bound -/

theorem toNat_of_mem_range {bound : UInt16} {number : Nat}
    (member : number ∈ List.range bound.toNat) :
    (UInt16.ofNat number).toNat = number :=
  UInt16.toNat_ofNat_of_lt' (Nat.lt_trans (List.mem_range.mp member) bound.toNat_lt)

theorem mem_numbersBelow {bound number : UInt16} :
    number ∈ numbersBelow bound ↔ number < bound := by
  rw [numbersBelow, List.mem_map, UInt16.lt_iff_toNat_lt]
  constructor
  · intro counted
    obtain ⟨index, member, same⟩ := counted
    rw [← same, toNat_of_mem_range member]
    exact List.mem_range.mp member
  · intro below
    exact ⟨number.toNat, List.mem_range.mpr below, UInt16.ofNat_toNat⟩

@[simp] theorem length_numbersBelow (bound : UInt16) :
    (numbersBelow bound).length = bound.toNat := by
  simp [numbersBelow]

theorem map_toNat_numbersBelow (bound : UInt16) :
    (numbersBelow bound).map UInt16.toNat = List.range bound.toNat := by
  rw [numbersBelow, List.map_map]
  exact (List.map_congr_left fun _ member => toNat_of_mem_range member).trans (List.map_id' _)

theorem pairwise_numbersBelow (bound : UInt16) : (numbersBelow bound).Pairwise (· < ·) := by
  refine List.Pairwise.of_map UInt16.toNat (fun _ _ => UInt16.lt_iff_toNat_lt.mpr) ?_
  rw [map_toNat_numbersBelow]
  exact List.pairwise_lt_range

theorem nodup_numbersBelow (bound : UInt16) : (numbersBelow bound).Nodup :=
  (pairwise_numbersBelow bound).imp UInt16.ne_of_lt

namespace Plan

/-! ## What an assignment promises -/

/-- The block at a position of a row stays where it is.  The data blocks are on the nodes
`sources`, and parity is nowhere yet. -/
def Stays (sources row : List NodeId) (position : Nat) : Prop :=
  position < sources.length ∧ row[position]? = sources[position]?

instance (sources row : List NodeId) (position : Nat) : Decidable (Stays sources row position) :=
  inferInstanceAs (Decidable (_ ∧ _))

/-- The nodes of the blocks that do not stay, by position. -/
def arrivals (sources row : List NodeId) : List NodeId :=
  (row.zipIdx.filter fun (_, position) => ¬Stays sources row position).map Prod.fst

/-- The lowest nodes that are free, in ascending order. -/
structure Lowest (free : NodeId → Prop) (nodes : List NodeId) : Prop where
  ascending : nodes.Pairwise (· < ·)
  members : ∀ node ∈ nodes, free node
  lowest : ∀ node ∈ nodes, ∀ other < node, free other → other ∈ nodes

/-- A row of different nodes on which the first data block from each node stays and the other blocks
go to the lowest nodes that none stays on. -/
structure Assigned (sources : List NodeId) (width : Nat) (limit : UInt16) (row : List NodeId) :
    Prop where
  length_eq : row.length = width
  distinct : row.Nodup
  bounded : ∀ node ∈ row, node < limit
  stays_iff : ∀ block < sources.length,
    Stays sources row block ↔ ∀ earlier < block, sources[earlier]? ≠ sources[block]?
  arrivals : Lowest (fun node => node < limit ∧
    ∀ block, Stays sources row block → row[block]? ≠ some node) (arrivals sources row)

theorem stays_iff_exists {sources row : List NodeId} {position : Nat} :
    Stays sources row position ↔
      ∃ node, sources[position]? = some node ∧ row[position]? = some node := by
  constructor
  · rintro ⟨inside, same⟩
    exact ⟨sources[position], List.getElem?_eq_getElem inside,
      same.trans (List.getElem?_eq_getElem inside)⟩
  · rintro ⟨node, source, target⟩
    exact ⟨(List.getElem?_eq_some_iff.mp source).1, target.trans source.symm⟩

theorem Lowest.of_isPrefix {free : NodeId → Prop} {nodes all : List NodeId}
    (ascending : all.Pairwise (· < ·)) (members : ∀ node, node ∈ all ↔ free node)
    (isFirst : nodes <+: all) : Lowest free nodes := by
  obtain ⟨rest, rfl⟩ := isFirst
  obtain ⟨front, -, before⟩ := List.pairwise_append.mp ascending
  refine ⟨front, fun node member => (members node).mp (List.mem_append_left _ member), ?_⟩
  intro node member other less isFree
  rcases List.mem_append.mp ((members other).mpr isFree) with inNodes | inRest
  · exact inNodes
  · exact absurd (before node member other inRest) (UInt16.not_lt.mpr (UInt16.le_of_lt less))

/-! ## Blocks that stay -/

/-- Which blocks stay where they are: the first on each node, those on `taken` nodes aside. -/
def keepFirst (taken : List NodeId) : List NodeId → List (Option NodeId)
  | [] => []
  | node :: nodes =>
      if taken.contains node then none :: keepFirst taken nodes
      else some node :: keepFirst (node :: taken) nodes

section Keep

variable {taken sources : List NodeId} {node : NodeId} {position : Nat}

theorem length_keepFirst (taken sources : List NodeId) :
    (keepFirst taken sources).length = sources.length := by
  induction sources generalizing taken with
  | nil => rfl
  | cons head tail ih =>
      rw [keepFirst]
      split <;> simp [ih]

/-- A block keeps its node unless that is taken or an earlier block is on it. -/
theorem getElem?_keepFirst_eq_some :
    (keepFirst taken sources)[position]? = some (some node) ↔
      sources[position]? = some node ∧ node ∉ taken ∧ node ∉ sources.take position := by
  induction sources generalizing taken position with
  | nil => simp [keepFirst]
  | cons head tail ih =>
      rw [keepFirst]
      split
      · rename_i isTaken
        rw [List.contains_iff_mem] at isTaken
        cases position with
        | zero =>
            simp only [List.getElem?_cons_zero, Option.some.injEq, reduceCtorEq, false_iff]
            rintro ⟨rfl, notTaken, -⟩
            exact notTaken isTaken
        | succ position =>
            have different (notTaken : node ∉ taken) : node ≠ head := by
              rintro rfl
              exact notTaken isTaken
            simp only [List.getElem?_cons_succ, ih, List.take_succ_cons, List.mem_cons, not_or]
            grind
      · rename_i notTaken
        rw [List.contains_iff_mem] at notTaken
        cases position with
        | zero =>
            simp only [List.getElem?_cons_zero, Option.some.injEq, List.take_zero,
              List.not_mem_nil, not_false_eq_true, and_true]
            grind
        | succ position =>
            simp only [List.getElem?_cons_succ, ih, List.take_succ_cons, List.mem_cons, not_or]
            grind

theorem some_mem_keepFirst :
    some node ∈ keepFirst taken sources ↔ node ∈ sources ∧ node ∉ taken := by
  induction sources generalizing taken with
  | nil => simp [keepFirst]
  | cons head tail ih =>
      rw [keepFirst]
      split
      · rename_i isTaken
        rw [List.contains_iff_mem] at isTaken
        simp only [List.mem_cons, reduceCtorEq, false_or, ih]
        constructor
        · exact fun kept => ⟨.inr kept.1, kept.2⟩
        · intro kept
          rcases kept.1 with same | inTail
          · exact absurd (same ▸ isTaken) kept.2
          · exact ⟨inTail, kept.2⟩
      · rename_i notTaken
        rw [List.contains_iff_mem] at notTaken
        by_cases same : node = head
        · simp [same, notTaken]
        · simp [same, ih]

theorem nodup_keepFirst : (keepFirst taken sources).reduceOption.Nodup := by
  induction sources generalizing taken with
  | nil => simp [keepFirst]
  | cons head tail ih =>
      rw [keepFirst]
      split
      · simpa using ih
      · rw [List.reduceOption_cons_of_some, List.nodup_cons, List.reduceOption_mem_iff,
          some_mem_keepFirst]
        exact ⟨fun again => again.2 List.mem_cons_self, ih⟩

end Keep

/-! ## Blocks that go elsewhere -/

/-- Give the free nodes in their order to the positions that have none. -/
def fill : List (Option NodeId) → (free : List NodeId) → Except Error (List NodeId)
  | [], _ => pure []
  | some node :: slots, free => return node :: (← fill slots free)
  | none :: _, [] => throw (.internal .outOfNodes)
  | none :: slots, node :: free => return node :: (← fill slots free)

/-- The slots of a row are filled with free nodes, one after the other. -/
inductive Fills : List (Option NodeId) → (free row : List NodeId) → Prop where
  | done (free : List NodeId) : Fills [] free []
  | kept {slots : List (Option NodeId)} {free row : List NodeId} (node : NodeId) :
      Fills slots free row → Fills (some node :: slots) free (node :: row)
  | given {slots : List (Option NodeId)} {free row : List NodeId} (node : NodeId) :
      Fills slots free row → Fills (none :: slots) (node :: free) (node :: row)

section Fill

variable {free row : List NodeId} {slots : List (Option NodeId)} {node : NodeId}

theorem fills_of_fill (filled : fill slots free = .ok row) : Fills slots free row := by
  induction slots generalizing free row with
  | nil =>
      obtain rfl := Except.ok.inj filled
      exact .done free
  | cons slot slots ih =>
      cases slot with
      | some node =>
          obtain ⟨others, rest, same⟩ := bind_eq_ok.mp filled
          obtain rfl := Except.ok.inj same
          exact .kept node (ih rest)
      | none =>
          cases free with
          | nil => cases filled
          | cons node free =>
              obtain ⟨others, rest, same⟩ := bind_eq_ok.mp filled
              obtain rfl := Except.ok.inj same
              exact .given node (ih rest)

theorem exists_fill (enough : (slots.filter Option.isNone).length ≤ free.length) :
    ∃ row, fill slots free = .ok row := by
  induction slots generalizing free with
  | nil => exact ⟨[], rfl⟩
  | cons slot slots ih =>
      cases slot with
      | some node =>
          have enough : (slots.filter Option.isNone).length ≤ free.length := by simpa using enough
          obtain ⟨others, filled⟩ := ih enough
          exact ⟨node :: others, by simp [fill, filled]⟩
      | none =>
          cases free with
          | nil => simp at enough
          | cons node free =>
              have enough : (slots.filter Option.isNone).length ≤ free.length := by
                simpa using enough
              obtain ⟨others, filled⟩ := ih enough
              exact ⟨node :: others, by simp [fill, filled]⟩

namespace Fills

theorem length_eq (fills : Fills slots free row) : row.length = slots.length := by
  induction fills with
  | done => rfl
  | kept _ _ ih => exact congrArg (· + 1) ih
  | given _ _ ih => exact congrArg (· + 1) ih

/-- Every slot has its own node, or else a free one. -/
theorem exists_getElem? (fills : Fills slots free row) {slot : Option NodeId} {position : Nat}
    (inSlots : slots[position]? = some slot) :
    ∃ node, row[position]? = some node ∧ (slot = some node ∨ slot = none ∧ node ∈ free) := by
  induction fills generalizing position with
  | done => simp at inSlots
  | kept node _ ih =>
      cases position with
      | zero => exact ⟨node, rfl, .inl (Option.some.inj inSlots).symm⟩
      | succ position => exact ih inSlots
  | given node _ ih =>
      cases position with
      | zero => exact ⟨node, rfl, .inr ⟨(Option.some.inj inSlots).symm, List.mem_cons_self⟩⟩
      | succ position =>
          obtain ⟨other, inRow, origin⟩ := ih inSlots
          exact ⟨other, inRow, origin.imp_right fun isFree =>
            ⟨isFree.1, List.mem_cons_of_mem _ isFree.2⟩⟩

/-- The nodes that empty slots are given are the first free ones. -/
theorem isPrefix (fills : Fills slots free row) :
    ((slots.zip row).filter (·.1.isNone)).map Prod.snd <+: free := by
  induction fills with
  | done free => simp
  | kept _ _ ih => simpa using ih
  | given _ _ ih => simpa [List.prefix_cons_inj] using ih

/-- A row has the nodes of its slots and those that empty slots are given. -/
theorem perm (fills : Fills slots free row) :
    row.Perm (slots.reduceOption ++ ((slots.zip row).filter (·.1.isNone)).map Prod.snd) := by
  induction fills with
  | done => simp
  | kept node _ ih => simpa using ih.cons node
  | given node _ ih => simpa using (ih.cons node).trans List.perm_middle.symm

end Fills

end Fill

/-! ## Whole rows -/

/-- The slots of a row: what stays, with empty ones for what is displaced or new. -/
def slots (sources : List NodeId) (extra : Nat) : List (Option NodeId) :=
  keepFirst [] sources ++ List.replicate extra none

/-- The nodes that no data block comes from, in ascending order. -/
def unused (sources : List NodeId) (limit : UInt16) : List NodeId :=
  (numbersBelow limit).filter (!sources.contains ·)

section Row

variable {sources row : List NodeId} {node : NodeId} {limit : UInt16} {extra position : Nat}

theorem mem_unused : node ∈ unused sources limit ↔ node < limit ∧ node ∉ sources := by
  simp [unused, mem_numbersBelow]

@[simp] theorem length_slots (sources : List NodeId) (extra : Nat) :
    (slots sources extra).length = sources.length + extra := by
  rw [slots, List.length_append, length_keepFirst, List.length_replicate]

theorem reduceOption_slots (sources : List NodeId) (extra : Nat) :
    (slots sources extra).reduceOption = (keepFirst [] sources).reduceOption := by
  rw [slots, List.reduceOption_append, List.reduceOption_replicate_none, List.append_nil]

theorem mem_reduceOption_slots : node ∈ (slots sources extra).reduceOption ↔ node ∈ sources := by
  rw [reduceOption_slots, List.reduceOption_mem_iff, some_mem_keepFirst]
  exact and_iff_left List.not_mem_nil

/-- A slot holds a node where its block is the first one on it. -/
theorem getElem?_slots_eq_some : (slots sources extra)[position]? = some (some node) ↔
    sources[position]? = some node ∧ node ∉ sources.take position := by
  rcases Nat.lt_or_ge position sources.length with isData | isNew
  · rw [slots, List.getElem?_append_left (by rwa [length_keepFirst]), getElem?_keepFirst_eq_some]
    simp
  · rw [slots, List.getElem?_append_right (by rwa [length_keepFirst]), List.getElem?_replicate,
      List.getElem?_eq_none isNew]
    split <;> simp

/-- There are enough free nodes for the displaced blocks, as long as there are as many nodes as
positions. -/
theorem length_empty_le (fits : sources.length + extra ≤ limit.toNat) :
    ((slots sources extra).filter Option.isNone).length ≤ (unused sources limit).length := by
  have covered : numbersBelow limit ⊆ (slots sources extra).reduceOption
      ++ unused sources limit := by
    intro node member
    by_cases isSource : node ∈ sources
    · exact List.mem_append_left _ (mem_reduceOption_slots.mpr isSource)
    · exact List.mem_append_right _ (mem_unused.mpr ⟨mem_numbersBelow.mp member, isSource⟩)
  have counted := (List.subperm_of_subset (nodup_numbersBelow limit) covered).length_le
  have kept := List.length_eq_reduceOption_length_add_filter_none (l := slots sources extra)
  rw [length_slots] at kept
  rw [length_numbersBelow, List.length_append] at counted
  omega

section Filled

variable (fills : Fills (slots sources extra) (unused sources limit) row)

include fills

/-- Exactly the blocks whose slots hold a node stay. -/
theorem stays_iff_slot :
    Stays sources row position ↔ ∃ node, (slots sources extra)[position]? = some (some node) := by
  constructor
  · intro stays
    obtain ⟨node, source, target⟩ := stays_iff_exists.mp stays
    have inside : position < (slots sources extra).length := by
      rw [← fills.length_eq]
      exact (List.getElem?_eq_some_iff.mp target).1
    obtain ⟨slot, inSlots⟩ : ∃ slot, (slots sources extra)[position]? = some slot :=
      ⟨_, List.getElem?_eq_getElem inside⟩
    obtain ⟨other, inRow, origin⟩ := fills.exists_getElem? inSlots
    obtain rfl := Option.some.inj (target.symm.trans inRow)
    rcases origin with isKept | ⟨-, isFree⟩
    · exact ⟨node, isKept ▸ inSlots⟩
    · -- A node that is given away is the source of no block, so of this one neither.
      exact absurd (List.mem_of_getElem? source) (mem_unused.mp isFree).2
  · rintro ⟨node, inSlots⟩
    obtain ⟨other, inRow, origin⟩ := fills.exists_getElem? inSlots
    have same : node = other := by simpa using origin
    exact stays_iff_exists.mpr ⟨node, (getElem?_slots_eq_some.mp inSlots).1, same ▸ inRow⟩

theorem stays_iff_first (isData : position < sources.length) :
    Stays sources row position ↔ ∀ earlier < position, sources[earlier]? ≠ sources[position]? := by
  obtain ⟨node, source⟩ : ∃ node, sources[position]? = some node :=
    ⟨_, List.getElem?_eq_getElem isData⟩
  have isFirst : (∃ node, (slots sources extra)[position]? = some (some node)) ↔
      node ∉ sources.take position := by
    simp only [getElem?_slots_eq_some, source, Option.some.injEq, exists_eq_left']
  rw [stays_iff_slot fills, isFirst, source, List.mem_take_iff_getElem]
  grind

/-- The slots are the blocks of the row that stay. -/
theorem slots_eq : slots sources extra = row.zipIdx.map fun (node, position) =>
    if Stays sources row position then some node else none := by
  refine List.ext_getElem? fun position => ?_
  rw [List.getElem?_map, List.getElem?_zipIdx]
  cases inSlots : (slots sources extra)[position]? with
  | none =>
      have outside : row[position]? = none := by
        rw [List.getElem?_eq_none_iff, fills.length_eq]
        exact List.getElem?_eq_none_iff.mp inSlots
      simp [outside]
  | some slot =>
      obtain ⟨node, inRow, origin⟩ := fills.exists_getElem? inSlots
      have stays : Stays sources row position ↔ ∃ node, slot = some node := by
        simp [stays_iff_slot fills, inSlots]
      rcases origin with rfl | ⟨rfl, -⟩ <;> simp [inRow, stays]

theorem arrivals_eq : arrivals sources row =
    (((slots sources extra).zip row).filter (·.1.isNone)).map Prod.snd := by
  have paired : (slots sources extra).zip row = row.zipIdx.map fun (node, position) =>
      (if Stays sources row position then some node else none, node) := by
    rw [← List.zip_map', List.zipIdx_map_fst, ← slots_eq fills]
  rw [paired, List.filter_map, List.map_map, arrivals]
  congr 2
  funext place
  by_cases stays : Stays sources row place.2 <;> simp [stays]

theorem perm_row : row.Perm ((slots sources extra).reduceOption ++ arrivals sources row) := by
  rw [arrivals_eq fills]
  exact fills.perm

theorem arrivals_isPrefix : arrivals sources row <+: unused sources limit := by
  rw [arrivals_eq fills]
  exact fills.isPrefix

theorem nodup_row : row.Nodup := by
  refine (perm_row fills).nodup_iff.mpr (List.nodup_append'.mpr ⟨?_, ?_, ?_⟩)
  · rw [reduceOption_slots]
    exact nodup_keepFirst
  · exact (arrivals_isPrefix fills).sublist.nodup ((nodup_numbersBelow limit).filter _)
  · intro node isKept isFree
    exact (mem_unused.mp ((arrivals_isPrefix fills).subset isFree)).2
      (mem_reduceOption_slots.mp isKept)

/-- The nodes that no block stays on are those that no data block comes from. -/
theorem not_stays_on_iff :
    (∀ block, Stays sources row block → row[block]? ≠ some node) ↔ node ∉ sources := by
  constructor
  · intro nowhere isSource
    have isKept : node ∈ (slots sources extra).reduceOption := mem_reduceOption_slots.mpr isSource
    obtain ⟨block, inSlots⟩ := List.mem_iff_getElem?.mp (List.reduceOption_mem_iff.mp isKept)
    have stays := (stays_iff_slot fills).mpr ⟨node, inSlots⟩
    exact nowhere block stays (stays.2.trans (getElem?_slots_eq_some.mp inSlots).1)
  · intro notSource block stays inRow
    exact notSource (List.mem_of_getElem? (stays.2.symm.trans inRow))

/-- Filling the slots assigns a row. -/
theorem assigned_of_fills (below : ∀ node ∈ sources, node < limit) :
    Assigned sources (sources.length + extra) limit row where
  length_eq := by rw [fills.length_eq, length_slots]
  distinct := nodup_row fills
  bounded := by
    intro node member
    rcases List.mem_append.mp ((perm_row fills).subset member) with isKept | isFree
    · exact below node (mem_reduceOption_slots.mp isKept)
    · exact (mem_unused.mp ((arrivals_isPrefix fills).subset isFree)).1
  stays_iff := fun _ isData => stays_iff_first fills isData
  arrivals := by
    refine .of_isPrefix ((pairwise_numbersBelow limit).filter _) (fun node => ?_)
      (arrivals_isPrefix fills)
    rw [not_stays_on_iff fills]
    exact mem_unused

end Filled

end Row

end Plan

end Restripe
