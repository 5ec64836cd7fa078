import Restripe.Proofs.Machine
import Restripe.Proofs.Plan.Assignment

/-!
# Assignments worked out in place

The nodes of a new stripe are worked out in place: one pass marks the nodes on which data blocks
stay, and another gives the nodes without a mark away.  Every mark and every slot is there when it is
read or written, so the passes only do what filling the slots of a list does.
-/

namespace Restripe

open Outcome

/-- The data blocks of a new stripe are some of its blocks, even where it is too wide to count. -/
theorem Code.dataAfter_le_widthAfter (code : Code) :
    code.dataAfter.toNat ≤ code.widthAfter.toNat := by
  have bound := code.dataAfter.toNat_lt_size
  have width : code.widthAfter.toNat =
      min (code.dataAfter.toNat + code.parityAfter.toNat) (UInt16.size - 1) :=
    UInt16.toNat_ofNat_of_lt' (Nat.lt_of_le_of_lt (Nat.min_le_right _ _) (by decide))
  omega

namespace Plan

/-! ## Marks -/

/-- The marks of the nodes in a list, by node. -/
def marks (nodes : UInt16) (taken : List NodeId) : Array Bool :=
  ((numbersBelow nodes).map taken.contains).toArray

section Marks

variable {nodes : UInt16} {taken : List NodeId} {node : NodeId}

theorem getElem?_numbersBelow (bound : UInt16) (index : Nat) :
    (numbersBelow bound)[index]? = if index < bound.toNat then some (.ofNat index) else none := by
  rw [numbersBelow, List.getElem?_map]
  split
  · rename_i inside
    rw [List.getElem?_range inside, Option.map_some]
  · rename_i outside
    rw [List.getElem?_eq_none (by simpa using outside), Option.map_none]

theorem getElem?_marks (below : node < nodes) :
    (marks nodes taken)[node.toNat]? = some (taken.contains node) := by
  rw [marks, List.getElem?_toArray, List.getElem?_map, getElem?_numbersBelow,
    if_pos (UInt16.lt_iff_toNat_lt.mp below), UInt16.ofNat_toNat, Option.map_some]

theorem marks_nil (nodes : UInt16) : marks nodes [] = .replicate nodes.toNat false := by
  have unmarked : ([] : List NodeId).contains = fun _ => false := by
    funext node
    rfl
  simp [marks, unmarked, List.map_const']

theorem putAt_marks (below : node < nodes) :
    putAt (marks nodes taken) node.toNat true = .ok (marks nodes (taken ++ [node])) := by
  have inside : node.toNat < (marks nodes taken).size := by
    simpa [marks] using UInt16.lt_iff_toNat_lt.mp below
  rw [putAt_eq inside, Except.ok.injEq]
  apply Array.toList_inj.mp
  rw [Array.toList_setIfInBounds, marks, marks]
  apply List.ext_getElem?
  intro index
  rw [List.getElem?_set, List.getElem?_map, List.getElem?_map, getElem?_numbersBelow]
  by_cases same : node.toNat = index
  · subst same
    simp [UInt16.lt_iff_toNat_lt.mp below]
  · rw [if_neg same]
    split
    · rename_i bound
      have other : UInt16.ofNat index ≠ node := by
        intro equal
        apply same
        rw [← equal, UInt16.toNat_ofNat_of_lt' (Nat.lt_trans bound nodes.toNat_lt)]
      simp [other]
    · rfl

end Marks

/-! ## Blocks that stay -/

/-- The draft after the data blocks on `sources` have been kept. -/
def Draft.after (nodes width : UInt16) (sources : List NodeId) : Draft where
  taken := marks nodes sources
  slots := (Plan.slots sources (width.toNat - sources.length)).toArray

section Keep

variable {nodes width : UInt16} {sources : List NodeId} {node : NodeId}

theorem keepFirst_concat (taken sources : List NodeId) (node : NodeId) :
    keepFirst taken (sources ++ [node]) =
      keepFirst taken sources ++ [if node ∈ taken ∨ node ∈ sources then none else some node] := by
  induction sources generalizing taken with
  | nil =>
      by_cases isTaken : node ∈ taken <;> simp [keepFirst, isTaken]
  | cons head tail ih =>
      rw [List.cons_append, keepFirst, keepFirst]
      split
      · rename_i isTaken
        have absorbed : node ∈ taken ∨ node ∈ head :: tail ↔ node ∈ taken ∨ node ∈ tail := by
          rw [List.contains_iff_mem] at isTaken
          grind
        simp only [ih, absorbed, List.cons_append]
      · have moved : node ∈ taken ∨ node ∈ head :: tail ↔ node ∈ head :: taken ∨ node ∈ tail := by
          grind
        simp only [ih, moved, List.cons_append]

theorem slots_concat (sources : List NodeId) (node : NodeId) (extra : Nat) :
    slots (sources ++ [node]) extra =
      keepFirst [] sources ++ (if node ∈ sources then none else some node) ::
        List.replicate extra none := by
  rw [slots, keepFirst_concat, List.append_assoc, List.singleton_append]
  simp

/-- Keeping the next data block is keeping one source more. -/
theorem Draft.keep_after {block : BlockIndex} (below : node < nodes)
    (isNext : block.toNat = sources.length) (room : sources.length < width.toNat) :
    (Draft.after nodes width sources).keep block node =
      .ok (Draft.after nodes width (sources ++ [node])) := by
  have left : width.toNat - sources.length = width.toNat - (sources ++ [node]).length + 1 := by
    rw [List.length_append, List.length_singleton]
    omega
  have vacant : Plan.slots sources (width.toNat - sources.length) = keepFirst [] sources ++
      none :: List.replicate (width.toNat - (sources ++ [node]).length) none := by
    rw [left, Plan.slots, List.replicate_succ]
  rw [Draft.keep, Draft.after, itemAt_eq (getElem?_marks below), ok_bind]
  by_cases member : node ∈ sources
  · have kept : marks nodes (sources ++ [node]) = marks nodes sources := by
      have same : (sources ++ [node]).contains = sources.contains := by
        funext other
        grind
      rw [marks, marks, same]
    rw [if_pos (List.contains_iff_mem.mpr member), Draft.after, slots_concat, if_pos member, vacant,
      kept]
    rfl
  · have inside : block.toNat <
        (Plan.slots sources (width.toNat - sources.length)).toArray.size := by
      rw [List.size_toArray, length_slots]
      omega
    have placed : (Plan.slots sources (width.toNat - sources.length)).toArray.setIfInBounds
        block.toNat (some node) = (Plan.slots (sources ++ [node])
          (width.toNat - (sources ++ [node]).length)).toArray := by
      apply Array.toList_inj.mp
      have position : (keepFirst [] sources).length = block.toNat := by
        rw [length_keepFirst, isNext]
      rw [Array.toList_setIfInBounds, slots_concat, if_neg member, vacant,
        List.set_append_right _ _ (Nat.le_of_eq position), position, Nat.sub_self,
        List.set_cons_zero]
    rw [if_neg (by simpa using member), putAt_marks below, ok_bind, putAt_eq inside, ok_bind,
      placed]
    rfl

/-- The pass over the data blocks looks their nodes up one after the other, and keeps them. -/
theorem Draft.foldlM_keep {lookup : BlockIndex → Except Error NodeId} {blocks : List BlockIndex}
    (numbered : blocks.map UInt16.toNat = List.range' sources.length blocks.length)
    (room : sources.length + blocks.length ≤ width.toNat)
    (below : ∀ block ∈ blocks, ∀ node, lookup block = .ok node → node < nodes) :
    blocks.foldlM (fun draft block => do draft.keep block (← lookup block))
        (Draft.after nodes width sources) =
      blocks.mapM lookup >>= fun more => .ok (Draft.after nodes width (sources ++ more)) := by
  induction blocks generalizing sources with
  | nil => simp
  | cons block blocks ih =>
      rw [List.length_cons] at room
      rw [List.map_cons, List.length_cons, List.range'_succ, List.cons.injEq] at numbered
      rw [List.foldlM_cons, List.mapM_cons]
      cases found : lookup block with
      | error error => rfl
      | ok node =>
          have kept : (Draft.after nodes width sources).keep block node =
              .ok (Draft.after nodes width (sources ++ [node])) :=
            Draft.keep_after (below block List.mem_cons_self node found) numbered.1 (by omega)
          have length : (sources ++ [node]).length = sources.length + 1 := by simp
          have rest := ih (length ▸ numbered.2) (by omega)
            (fun other member => below other (List.mem_cons_of_mem block member))
          rw [ok_bind, kept, ok_bind, rest, ok_bind]
          cases blocks.mapM lookup with
          | error error => rfl
          | ok more => simp

end Keep

/-! ## Blocks that go elsewhere -/

section Settle

variable {nodes : UInt16} {taken candidates : List NodeId} {node : NodeId}

theorem nextFree_eq_error (below : ∀ candidate ∈ candidates, candidate < nodes)
    (allTaken : candidates.filter (!taken.contains ·) = []) :
    nextFree (marks nodes taken) candidates = .error (.internal .outOfNodes) := by
  induction candidates with
  | nil => rfl
  | cons candidate candidates ih =>
      have isTaken : taken.contains candidate = true := by
        simpa using List.filter_eq_nil_iff.mp allTaken candidate List.mem_cons_self
      have others : candidates.filter (!taken.contains ·) = [] := by
        rwa [List.filter_cons_of_neg (by rw [isTaken]; decide)] at allTaken
      rw [nextFree, itemAt_eq (getElem?_marks (below candidate List.mem_cons_self)), ok_bind,
        if_pos isTaken]
      exact ih (fun other member => below other (List.mem_cons_of_mem candidate member)) others

/-- The next free candidate is the first of the free ones, and the others come after it. -/
theorem exists_nextFree (below : ∀ candidate ∈ candidates, candidate < nodes) {free : List NodeId}
    (isFree : candidates.filter (!taken.contains ·) = node :: free) :
    ∃ others, nextFree (marks nodes taken) candidates = .ok (node, others) ∧
      node :: others <:+ candidates ∧ others.filter (!taken.contains ·) = free := by
  induction candidates with
  | nil => cases isFree
  | cons candidate candidates ih =>
      have marked : itemAt (marks nodes taken) candidate.toNat = .ok (taken.contains candidate) :=
        itemAt_eq (getElem?_marks (below candidate List.mem_cons_self))
      cases isTaken : taken.contains candidate with
      | true =>
          have later : candidates.filter (!taken.contains ·) = node :: free := by
            rwa [List.filter_cons_of_neg (by rw [isTaken]; decide)] at isFree
          obtain ⟨others, found, suffix, rest⟩ :=
            ih (fun other member => below other (List.mem_cons_of_mem candidate member)) later
          refine ⟨others, ?_, suffix.trans (List.suffix_cons candidate candidates), rest⟩
          rw [nextFree, marked, ok_bind, if_pos isTaken, found]
      | false =>
          rw [List.filter_cons_of_pos (by rw [isTaken]; rfl), List.cons.injEq] at isFree
          obtain ⟨rfl, rest⟩ := isFree
          refine ⟨candidates, ?_, List.suffix_rfl, rest⟩
          rw [nextFree, marked, ok_bind, if_neg (by rw [isTaken]; decide)]
          rfl

/-- The pass over the other blocks fills their slots with the free candidates. -/
theorem settle_eq (below : ∀ candidate ∈ candidates, candidate < nodes)
    (distinct : candidates.Nodup) (slots : List (Option NodeId)) :
    settle (marks nodes taken) candidates slots =
      fill slots (candidates.filter (!taken.contains ·)) := by
  induction slots generalizing taken candidates with
  | nil => rfl
  | cons slot slots ih =>
      cases slot with
      | some node => rw [settle, fill, ih below distinct]
      | none =>
          rw [settle]
          cases isFree : candidates.filter (!taken.contains ·) with
          | nil => rw [nextFree_eq_error below isFree, fill, error_bind, throw_eq]
          | cons node free =>
              obtain ⟨others, found, suffix, rest⟩ := exists_nextFree below isFree
              have inCluster : node < nodes := below node (suffix.subset List.mem_cons_self)
              obtain ⟨absent, othersDistinct⟩ :=
                List.nodup_cons.mp (distinct.sublist suffix.sublist)
              have othersBelow : ∀ other ∈ others, other < nodes := fun other member =>
                below other (suffix.subset (List.mem_cons_of_mem node member))
              -- The node that is given away is no candidate any more, so its mark changes nothing.
              have unchanged : others.filter (!(taken ++ [node]).contains ·) = free := by
                rw [← rest]
                apply List.filter_congr
                intro other member
                have different : other ≠ node := by
                  intro same
                  exact absent (same ▸ member)
                simp [different]
              simp only [found, ok_bind, putAt_marks inCluster, ih othersBelow othersDistinct,
                unchanged, fill]

end Settle

/-! ## Whole rows -/

theorem sourceNode_lt {code : Code} {nodes : UInt16} {rows : Placement} {block : BlockIndex}
    {node : NodeId} (found : sourceNode code nodes rows block = .ok node) : node < nodes := by
  obtain ⟨source, -, found⟩ := bind_eq_ok.mp found
  dsimp only at found
  split at found
  · cases found
  · split at found
    · rename_i below
      exact Except.ok.inj found ▸ below
    · cases found

/-- Working a row out in place looks up the nodes of the data blocks, and fills the slots of all
blocks with them and with the nodes that no data block comes from. -/
theorem assign_eq (code : Code) (nodes : UInt16) (rows : Placement) :
    assign code nodes rows = (do
      let sources ← (numbersBelow code.dataAfter).mapM (sourceNode code nodes rows)
      fill (slots sources (code.widthAfter.toNat - code.dataAfter.toNat))
        (unused sources nodes)) := by
  have start : Draft.empty nodes code.widthAfter = .after nodes code.widthAfter [] := by
    simp [Draft.empty, Draft.after, marks_nil, slots, keepFirst]
  have numbered : (numbersBelow code.dataAfter).map UInt16.toNat =
      List.range' ([] : List NodeId).length (numbersBelow code.dataAfter).length := by
    rw [map_toNat_numbersBelow, length_numbersBelow, List.range_eq_range', List.length_nil]
  have room : ([] : List NodeId).length + (numbersBelow code.dataAfter).length ≤
      code.widthAfter.toNat := by
    simpa using code.dataAfter_le_widthAfter
  rw [assign, start, Draft.foldlM_keep numbered room fun _ _ _ => sourceNode_lt]
  cases found : (numbersBelow code.dataAfter).mapM (sourceNode code nodes rows) with
  | error error => rfl
  | ok sources =>
      have length : sources.length = code.dataAfter.toNat := by
        rw [length_of_mapM found, length_numbersBelow]
      simp only [ok_bind, List.nil_append, Draft.after, length]
      exact settle_eq (fun _ => mem_numbersBelow.mp) (nodup_numbersBelow nodes) _

end Plan

end Restripe
