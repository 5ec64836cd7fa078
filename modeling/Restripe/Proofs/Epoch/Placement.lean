import Mathlib.Data.Nat.Find
import Restripe.Epoch
import Restripe.Proofs.Metadata.Placement
import Restripe.Proofs.Random
import Restripe.Proofs.Validation

/-!
# The placement of a new epoch

A seed gives a row of different nodes of the cluster to every stripe.  Only the draws themselves can
fail, when the words of the stream are refused too often; the limit on that decides whether there is
a placement, but not which one.
-/

namespace Restripe.Placement

open Restripe.Random Outcome

theorem yields_row {nodes width : Nat} (fits : width ≤ nodes) (bound : nodes < UInt16.size) :
    (sample nodes width).Yields fun row => (row.map UInt16.ofNat).length = width ∧
      (row.map UInt16.ofNat).Nodup ∧ ∀ node ∈ row.map UInt16.ofNat, node.toNat < nodes := by
  refine (yields_sample fits).mono fun row isSample => ?_
  have numbers : ∀ index ∈ row, (UInt16.ofNat index).toNat = index := fun index member =>
    UInt16.toNat_ofNat_of_lt' (Nat.lt_trans (isSample.bounded index member) bound)
  refine ⟨by rw [List.length_map, isSample.length_eq], ?_, ?_⟩
  · refine isSample.distinct.map_on fun left leftMember right rightMember same => ?_
    rw [← numbers left leftMember, ← numbers right rightMember, same]
  · intro node member
    obtain ⟨index, inRow, same⟩ := List.mem_map.mp member
    rw [← same, numbers index inRow]
    exact isSample.bounded index inRow

theorem yields_drawRows {nodes width : Nat} (fits : width ≤ nodes) (bound : nodes < UInt16.size)
    (count : Nat) :
    (drawRows nodes width count).Yields fun placement => placement.length = count ∧
      ∀ row ∈ placement, row.length = width ∧ row.Nodup ∧ ∀ node ∈ row, node.toNat < nodes := by
  induction count with
  | zero => exact yields_pure ⟨rfl, by simp⟩
  | succ count ih =>
      refine yields_bind (yields_row fits bound) fun row drawn => ?_
      refine yields_bind ih fun rows others => yields_pure ⟨?_, ?_⟩
      · rw [List.length_cons, others.1]
      · exact List.forall_mem_cons.mpr ⟨drawn, others.2⟩

theorem settles_drawRows (nodes width count : Nat) : (drawRows nodes width count).Settles := by
  induction count with
  | zero => exact settles_pure []
  | succ count ih =>
      exact settles_bind (settles_sample _ _) fun row => settles_bind ih fun rows => settles_pure _

/-! ## Generating -/

variable {code : Code} {cluster : Cluster}

/-- A row of different nodes of the cluster for every stripe, as wide as the code before. -/
structure Spread (code : Code) (cluster : Cluster) (placement : Placement) : Prop where
  length_eq : placement.length = cluster.stripes.toNat
  width : ∀ row ∈ placement, row.length = code.dataBefore.toNat + code.parityBefore.toNat
  distinct : ∀ row ∈ placement, row.Nodup
  bounded : ∀ row ∈ placement, ∀ node ∈ row, node.toNat < cluster.nodes.toNat

/-- A code that has data and parity, and that fits on the nodes of the cluster. -/
structure Fits (code : Code) (cluster : Cluster) : Prop where
  dataBefore_ne : code.dataBefore ≠ 0
  parityBefore_ne : code.parityBefore ≠ 0
  width_le : code.dataBefore.toNat + code.parityBefore.toNat ≤ cluster.nodes.toNat

theorem exists_config_of_not_fits (unfit : ¬Fits code cluster) (seed : UInt64) :
    ∃ cause, ∀ limit, generateWithin limit code cluster seed = .error (.config cause) := by
  unfold generateWithin
  dsimp only
  split
  · exact ⟨_, fun _ => rfl⟩
  rename_i nonzero
  split
  · exact ⟨_, fun _ => rfl⟩
  split
  · exact ⟨_, fun _ => rfl⟩
  rename_i wide
  rw [not_or] at nonzero
  exact absurd ⟨nonzero.1, nonzero.2, Nat.not_lt.mp wide⟩ unfit

theorem Fits.generateWithin_eq (fits : Fits code cluster) (limit : Nat) (seed : UInt64) :
    generateWithin limit code cluster seed =
      ((drawRows cluster.nodes.toNat (code.dataBefore.toNat + code.parityBefore.toNat)
        cluster.stripes.toNat).run limit).run' (.ofSeed seed) := by
  have nonzero : ¬(code.dataBefore = 0 ∨ code.parityBefore = 0) :=
    not_or.mpr ⟨fits.dataBefore_ne, fits.parityBefore_ne⟩
  have narrow : ¬UInt16.size ≤ code.dataBefore.toNat + code.parityBefore.toNat :=
    Nat.not_le.mpr (Nat.lt_of_le_of_lt fits.width_le cluster.nodes.toNat_lt)
  rw [generateWithin, if_neg nonzero, if_neg narrow, if_neg (Nat.not_lt.mpr fits.width_le)]

/-- What fits has a placement unless a draw is given up. -/
theorem Fits.spread_of_generateWithin (fits : Fits code cluster) (limit : Nat) (seed : UInt64) :
    (∃ placement, generateWithin limit code cluster seed = .ok placement ∧
      Spread code cluster placement) ∨
      generateWithin limit code cluster seed = .error (.fault .tooManyDraws) := by
  have outcome := yields_drawRows fits.width_le cluster.nodes.toNat_lt cluster.stripes.toNat
    limit (.ofSeed seed)
  rw [fits.generateWithin_eq, StateT.run'_eq]
  split at outcome
  · rename_i placement generator drawn
    obtain ⟨count, rows⟩ := outcome
    exact .inl ⟨placement, by rw [drawn]; rfl, count, fun row member => (rows row member).1,
      fun row member => (rows row member).2.1, fun row member => (rows row member).2.2⟩
  · rename_i error failed
    exact .inr (by rw [failed, outcome]; rfl)

theorem Fits.generateWithin_mono (fits : Fits code cluster) {limit larger : Nat} {seed : UInt64}
    {placement : Placement} (le : limit ≤ larger)
    (generated : generateWithin limit code cluster seed = .ok placement) :
    generateWithin larger code cluster seed = .ok placement := by
  rw [fits.generateWithin_eq, StateT.run'_eq] at generated ⊢
  obtain ⟨result, drawn, same⟩ := bind_eq_ok.mp generated
  exact bind_eq_ok.mpr
    ⟨result, settles_drawRows _ _ _ limit larger le (.ofSeed seed) result drawn, same⟩

/-- A code that does not fit on the nodes of the cluster is a configuration error.  For one that
fits, either the draws end, and then every limit that is high enough gives one and the same
placement, which has a row of different nodes for every stripe; or they never end, and then every
limit is exceeded.  The limit of `generate` is `Random.maxTries`. -/
theorem generateWithin_cases (code : Code) (cluster : Cluster) (seed : UInt64) :
    (code.dataBefore = 0 ∨ code.parityBefore = 0 ∨
        65535 < code.dataBefore.toNat + code.parityBefore.toNat ∨
        cluster.nodes.toNat < code.dataBefore.toNat + code.parityBefore.toNat →
      ∃ cause, ∀ limit, generateWithin limit code cluster seed = .error (.config cause)) ∧
    (code.dataBefore ≠ 0 → code.parityBefore ≠ 0 →
        code.dataBefore.toNat + code.parityBefore.toNat ≤ cluster.nodes.toNat →
      (∃ placement least, Spread code cluster placement ∧
        ∀ limit, generateWithin limit code cluster seed =
          if least ≤ limit then .ok placement else .error (.fault .tooManyDraws)) ∨
      ∀ limit, generateWithin limit code cluster seed = .error (.fault .tooManyDraws)) := by
  refine ⟨fun unfit => exists_config_of_not_fits (fun fits => ?_) seed,
    fun dataBefore parityBefore width => ?_⟩
  · have bound := cluster.nodes.toNat_lt
    have width := fits.width_le
    rcases unfit with zero | zero | overflow | narrow
    · exact fits.dataBefore_ne zero
    · exact fits.parityBefore_ne zero
    · omega
    · omega
  have fits : Fits code cluster := ⟨dataBefore, parityBefore, width⟩
  by_cases ends : ∃ limit placement, generateWithin limit code cluster seed = .ok placement
  · classical
    -- The least limit that is not exceeded divides the limits.
    obtain ⟨placement, generated⟩ := Nat.find_spec ends
    refine .inl ⟨placement, Nat.find ends, ?_, fun limit => ?_⟩
    · rcases fits.spread_of_generateWithin (Nat.find ends) seed with drawn | givenUp
      · obtain ⟨other, same, spread⟩ := drawn
        exact Except.ok.inj (same.symm.trans generated) ▸ spread
      · rw [generated] at givenUp
        cases givenUp
    · split
      · rename_i le
        exact fits.generateWithin_mono le generated
      · rename_i less
        rcases fits.spread_of_generateWithin limit seed with drawn | givenUp
        · obtain ⟨other, same, -⟩ := drawn
          exact absurd ⟨other, same⟩ (Nat.find_min ends (Nat.not_le.mp less))
        · exact givenUp
  · refine .inr fun limit => (fits.spread_of_generateWithin limit seed).resolve_left ?_
    rintro ⟨placement, generated, -⟩
    exact ends ⟨limit, placement, generated⟩

/-- Stripes that are too wide for their numbers, and stripes that take all nodes. -/
theorem generateWithin_cases_extreme :
    (∃ cause, ∀ limit, generateWithin limit ⟨65535, 1, 65535, 1⟩ ⟨65535, 1⟩ 0 =
      .error (.config cause)) ∧
    ∃ placement least, Spread ⟨6, 3, 12, 3⟩ ⟨9, 3⟩ placement ∧
      ∀ limit, generateWithin limit ⟨6, 3, 12, 3⟩ ⟨9, 3⟩ 1 =
        if least ≤ limit then .ok placement else .error (.fault .tooManyDraws) := by
  have wide := generateWithin_cases ⟨65535, 1, 65535, 1⟩ ⟨65535, 1⟩ 0
  have full := generateWithin_cases ⟨6, 3, 12, 3⟩ ⟨9, 3⟩ 1
  refine ⟨wide.1 (.inr (.inr (.inl (by decide)))), ?_⟩
  refine (full.2 (by decide) (by decide) (by decide)).resolve_right fun givenUp => ?_
  have success : (generateWithin 64 ⟨6, 3, 12, 3⟩ ⟨9, 3⟩ 1).isOk = true := by decide +kernel
  rw [givenUp] at success
  cases success

/-! ## A new epoch -/

/-- A placement of a new epoch: a row of different nodes for every stripe. -/
structure Drawn (code : Code) (cluster : Cluster) (placement : Placement) : Prop where
  length_eq : placement.length = cluster.stripes.toNat
  rows : ∀ row ∈ placement, (⟨code.widthBefore, cluster.nodes⟩ : PlacementShape).Admits row
  spread : ∀ row ∈ placement, row.Nodup

/-- Where the stripes fit on the cluster, a seed gives a placement unless a draw is given up. -/
theorem drawn_of_generate {code : Code} {cluster : Cluster} {fanIn : UInt16}
    (admits : cluster.Admits code fanIn) (seed : UInt64) :
    (∃ placement, generate code cluster seed = .ok placement ∧ Drawn code cluster placement) ∨
      generate code cluster seed = .error (.fault .tooManyDraws) := by
  have fits : Fits code cluster := by
    have dataBefore := admits.dataBefore_pos
    have parityBefore := admits.parityBefore_pos
    refine ⟨fun zero => ?_, fun zero => ?_, admits.widthBefore_le⟩
    · simp [zero] at dataBefore
    · simp [zero] at parityBefore
  rcases fits.spread_of_generateWithin maxTries seed with drawn | givenUp
  · obtain ⟨placement, generated, spread⟩ := drawn
    refine .inl ⟨placement, generated, spread.length_eq, fun row member => ⟨?_, ?_⟩,
      spread.distinct⟩
    · rw [admits.widthBefore_eq, spread.width row member]
    · exact fun node inRow => UInt16.lt_iff_toNat_lt.mpr (spread.bounded row member node inRow)
  · exact .inr givenUp

end Restripe.Placement
