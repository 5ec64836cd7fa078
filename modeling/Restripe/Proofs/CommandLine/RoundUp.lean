import Mathlib.Algebra.Order.Floor.Div
import Restripe.CommandLine.Run
import Restripe.Proofs.CommandLine.Arguments
import Restripe.Proofs.Disk
import Restripe.Proofs.Validation

/-!
# Stripes that are rounded up to whole groups

Rounding up gives the least number of stripes that are whole groups and no fewer than there were.
What is rounded up passes the check that its stripes are whole groups, and stays as it is when it is
rounded again.  Near the largest number of stripes that can be counted there may be no such number;
then rounding up ends in an overflow.
-/

namespace Restripe

open Outcome

/-- The numbers of stripes that are whole groups and no fewer than these. -/
def WholeGroups (fanIn : UInt16) (stripes : UInt32) : Set Nat :=
  { count | fanIn.toNat ∣ count ∧ stripes.toNat ≤ count }

variable {fanIn : UInt16}

/-- As many groups as it takes to hold the stripes are the fewest. -/
theorem isLeast_wholeGroups (positive : 0 < fanIn.toNat) (stripes : UInt32) :
    IsLeast (WholeGroups fanIn stripes)
      ((stripes.toNat + fanIn.toNat - 1) / fanIn.toNat * fanIn.toNat) := by
  rw [← Nat.ceilDiv_eq_add_pred_div, Nat.mul_comm]
  refine ⟨⟨Nat.dvd_mul_right _ _, le_smul_ceilDiv positive⟩, ?_⟩
  rintro count ⟨⟨groups, rfl⟩, enough⟩
  exact Nat.mul_le_mul_left _ ((ceilDiv_le_iff_le_smul positive).mpr enough)

/-! ## Clusters -/

namespace Cluster

variable {cluster rounded : Cluster} {code : Code}

/-- Stripes are rounded up to the least number of whole groups, if it can be counted. -/
theorem roundUp_of_isLeast {count : Nat} (positive : 0 < fanIn.toNat)
    (least : IsLeast (WholeGroups fanIn cluster.stripes) count) :
    cluster.roundUp fanIn =
      if count < UInt32.size then .ok { cluster with stripes := UInt32.ofNat count }
      else .error (.fault .overflow) := by
  obtain rfl := least.unique (isLeast_wholeGroups positive cluster.stripes)
  rw [Cluster.roundUp, Cluster.roundUp?, Nat.max_eq_left positive]
  by_cases counted : (cluster.stripes.toNat + fanIn.toNat - 1) / fanIn.toNat * fanIn.toNat
      < UInt32.size <;> simp [counted]

theorem roundUp_eq_ok (positive : 0 < fanIn.toNat) :
    cluster.roundUp fanIn = .ok rounded ↔
      rounded.nodes = cluster.nodes ∧
        IsLeast (WholeGroups fanIn cluster.stripes) rounded.stripes.toNat := by
  constructor
  · intro success
    have least := isLeast_wholeGroups positive cluster.stripes
    rw [roundUp_of_isLeast positive least] at success
    split at success
    · rename_i counted
      obtain rfl := Except.ok.inj success
      rw [UInt32.toNat_ofNat_of_lt' counted]
      exact ⟨rfl, least⟩
    · cases success
  · rintro ⟨sameNodes, least⟩
    rw [roundUp_of_isLeast positive least, if_pos rounded.stripes.toNat_lt, UInt32.ofNat_toNat,
      ← sameNodes]

/-- Stripes that are whole groups pass the check that they are. -/
theorem validate_ne_unevenStripes (integral : code.fanIn = .ok fanIn)
    (divides : fanIn.toNat ∣ cluster.stripes.toNat) (stripes : UInt32) (groups : UInt16) :
    cluster.validate code ≠ .error (.config (.unevenStripes stripes groups)) := by
  have whole := Code.fanIn_eq_ok.mp integral
  have even := stripes_mod_eq_zero divides
  simp only [Cluster.validate, integral, ok_bind, divide_eq whole.toUInt32_ne_zero, even,
    throw_eq, error_bind]
  split
  · simp
  · split <;> simp

/-- Stripes that are whole groups are what their groups make up. -/
theorem stripesAfter_of_dvd (positive : 0 < fanIn.toNat)
    (divides : fanIn.toNat ∣ cluster.stripes.toNat) :
    ∃ groups, cluster.stripesAfter fanIn = .ok groups ∧
      groups.toNat * fanIn.toNat = cluster.stripes.toNat := by
  obtain ⟨groups, counted, quotient⟩ := exists_stripesAfter cluster positive
  exact ⟨groups, counted, by rw [quotient, Nat.div_mul_cancel divides]⟩

end Cluster

/-! ## Configurations -/

namespace Config

variable {config rounded : Config}

/-- A configuration that differs from another in its stripes alone, which are the fewest whole
groups that are enough. -/
structure RoundsUp (config rounded : Config) (fanIn : UInt16) : Prop where
  unchanged : rounded = { config with cluster.stripes := rounded.cluster.stripes }
  least : IsLeast (WholeGroups fanIn config.cluster.stripes) rounded.cluster.stripes.toNat

theorem roundUp_eq_ok (integral : config.code.fanIn = .ok fanIn) :
    config.roundUp = .ok rounded ↔ RoundsUp config rounded fanIn := by
  have positive := (Code.fanIn_eq_ok.mp integral).fanIn_pos
  simp only [Config.roundUp, integral, ok_bind, bind_eq_ok, Cluster.roundUp_eq_ok positive, pure_eq,
    Except.ok.injEq]
  constructor
  · rintro ⟨⟨nodes, stripes⟩, ⟨rfl, least⟩, rfl⟩
    exact ⟨rfl, least⟩
  · rintro ⟨unchanged, least⟩
    refine ⟨rounded.cluster, ⟨?_, least⟩, ?_⟩
    · rw [unchanged]
    · rw [unchanged]

/-- Where no whole groups that are enough can be counted, rounding up overflows. -/
theorem roundUp_eq_error (integral : config.code.fanIn = .ok fanIn)
    (uncounted : ∀ count ∈ WholeGroups fanIn config.cluster.stripes, UInt32.size ≤ count) :
    config.roundUp = .error (.fault .overflow) := by
  have positive := (Code.fanIn_eq_ok.mp integral).fanIn_pos
  have least := isLeast_wholeGroups positive config.cluster.stripes
  rw [Config.roundUp, integral, ok_bind, Cluster.roundUp_of_isLeast positive least,
    if_neg (Nat.not_lt.mpr (uncounted _ least.1)), error_bind]

theorem exists_roundsUp (integral : config.code.fanIn = .ok fanIn)
    (counted : ∃ count ∈ WholeGroups fanIn config.cluster.stripes, count < UInt32.size) :
    ∃ rounded, RoundsUp config rounded fanIn := by
  have positive := (Code.fanIn_eq_ok.mp integral).fanIn_pos
  obtain ⟨fewest, least⟩ : ∃ fewest, IsLeast (WholeGroups fanIn config.cluster.stripes) fewest :=
    ⟨_, isLeast_wholeGroups positive _⟩
  obtain ⟨count, whole, small⟩ := counted
  refine ⟨{ config with cluster.stripes := UInt32.ofNat fewest }, rfl, ?_⟩
  rwa [UInt32.toNat_ofNat_of_lt' ((least.2 whole).trans_lt small)]

/-- Stripes are rounded up after all else is overridden. -/
theorem override_of_roundUp {overrides : Overrides} (raised : overrides.roundUp = true) :
    config.override overrides =
      config.override { overrides with roundUp := false } >>= Config.roundUp := by
  simp [Config.override, raised, SolverSettings.override]

namespace RoundsUp

variable (rounds : RoundsUp config rounded fanIn)

include rounds

theorem code_eq : rounded.code = config.code := by
  rw [rounds.unchanged]

theorem validate_ne_unevenStripes (integral : config.code.fanIn = .ok fanIn) (stripes : UInt32)
    (groups : UInt16) : rounded.validate ≠ .error (.config (.unevenStripes stripes groups)) := by
  have checked : rounded.cluster.validate rounded.code
      ≠ .error (.config (.unevenStripes stripes groups)) :=
    Cluster.validate_ne_unevenStripes (rounds.code_eq ▸ integral) rounds.least.1.1 stripes groups
  intro refused
  rcases bind_eq_error.mp refused with uneven | ⟨_, -, blocks⟩
  · exact checked uneven
  · simp only [throw_eq, error_bind, pure_eq] at blocks
    split at blocks <;> simp at blocks

/-- Whole groups are the fewest that are enough for themselves. -/
theorem again : RoundsUp rounded rounded fanIn :=
  ⟨rfl, ⟨rounds.least.1.1, le_rfl⟩, fun _ whole => whole.2⟩

end RoundsUp

end Config

/-! ## Command lines -/

namespace CommandLine

open Restripe.Outcome

/-- The configuration that a command runs with. -/
def Invocation.load (invocation : Invocation) : Disk Config := do
  (← Config.load invocation.config).override invocation.overrides

/-- The command without `--round-up-stripes`. -/
def Invocation.unrounded (invocation : Invocation) : Invocation :=
  { invocation with overrides.roundUp := false }

namespace Invocation

variable {invocation : Invocation} {host : Host} {config : Config} {fs after : FileSystem}

theorem perform_of_load_error {cause : Error}
    (failed : invocation.load.perform fs = (.error cause, after)) :
    (invocation.perform host).perform fs = (.error cause, after) := by
  rw [Invocation.perform]
  rcases Disk.bind_eq_error.mp failed with unread | ⟨config, middle, read, refused⟩
  · rw [Disk.perform_bind_error unread]
  · rw [Disk.perform_bind_ok read, Disk.perform_bind_error refused]

/-- The switch rounds up what is loaded without it. -/
theorem load_eq_roundUp (raised : invocation.overrides.roundUp = true)
    (loaded : invocation.unrounded.load.perform fs = (.ok config, after)) :
    invocation.load.perform fs = (config.roundUp, after) := by
  obtain ⟨found, middle, read, overridden⟩ := Disk.bind_eq_ok.mp loaded
  rw [Disk.perform_liftM, Prod.mk.injEq] at overridden
  obtain ⟨overridden, rfl⟩ := overridden
  have read : (Config.load invocation.config).perform fs = (.ok found, middle) := read
  have overridden : found.override { invocation.overrides with roundUp := false } = .ok config :=
    overridden
  rw [load, Disk.perform_bind_ok read, Disk.perform_liftM, Config.override_of_roundUp raised,
    overridden, ok_bind]

end Invocation

variable {command : Command} {groups : List Group} {invocation : Invocation} {config : Config}
  {fs after : FileSystem}

/-- With `--round-up-stripes`, a command runs with the configuration that it would run with
otherwise, but with the fewest whole groups that hold its stripes.  Their number is accepted, is
what its groups make up, and is not rounded any further.  Only where it cannot be counted, the
command ends in an overflow. -/
theorem load_roundUp (parsed : parse (command.name :: groups.flatMap Group.tokens) = .ok invocation)
    (raised : Raises .roundUp groups)
    (loaded : invocation.unrounded.load.perform fs = (.ok config, after))
    (integral : config.code.fanIn = .ok fanIn) :
    ((∃ count ∈ WholeGroups fanIn config.cluster.stripes, count < UInt32.size) →
      ∃ rounded : Config, invocation.load.perform fs = (.ok rounded, after) ∧
        rounded = { config with cluster.stripes := rounded.cluster.stripes } ∧
        IsLeast (WholeGroups fanIn config.cluster.stripes) rounded.cluster.stripes.toNat ∧
        (∀ stripes groups,
          rounded.validate ≠ .error (.config (.unevenStripes stripes groups))) ∧
        (∃ made, rounded.cluster.stripesAfter fanIn = .ok made ∧
          made.toNat * fanIn.toNat = rounded.cluster.stripes.toNat) ∧
        rounded.roundUp = .ok rounded) ∧
    ((∀ count ∈ WholeGroups fanIn config.cluster.stripes, UInt32.size ≤ count) →
      ∀ host : Host, (invocation.perform host).perform fs = (.error (.fault .overflow), after)) := by
  obtain ⟨-, -, gathers⟩ := parse_groups_eq_ok.mp parsed
  have rounding := Invocation.load_eq_roundUp (gathers.roundUp.mpr raised) loaded
  have positive := (Code.fanIn_eq_ok.mp integral).fanIn_pos
  constructor
  · intro counted
    obtain ⟨rounded, rounds⟩ := Config.exists_roundsUp integral counted
    refine ⟨rounded, ?_, rounds.unchanged, rounds.least, rounds.validate_ne_unevenStripes integral,
      Cluster.stripesAfter_of_dvd positive rounds.least.1.1, ?_⟩
    · rw [rounding, (Config.roundUp_eq_ok integral).mpr rounds]
    · exact (Config.roundUp_eq_ok (rounds.code_eq ▸ integral)).mpr rounds.again
  · intro uncounted host
    rw [Config.roundUp_eq_error integral uncounted] at rounding
    exact Invocation.perform_of_load_error rounding

def striped (stripes : Nat) : FileSystem :=
  ⟨[([Bytes.ofString "run.toml"], .file (Bytes.ofString <| String.intercalate "\n" ["[common]",
    "k_pre = 1", "m_pre = 1", "k_post = 2", "m_post = 1", "num_nodes = 3",
    s!"num_stripes = {stripes}", "approach = \"BT\"", ""]) false)], []⟩

def stripedConfig (stripes : UInt32) : Config where
  code := ⟨1, 1, 2, 1⟩
  cluster := ⟨3, stripes⟩
  approach := .balanced

theorem load_roundUp_odd :
    let groups : List Group := [.raise .roundUp ⟨"--round-up-stripes", by decide⟩,
      .assign .config "run.toml"]
    let invocation : Invocation :=
      ⟨.reconcile, .ofString "run.toml", none, false, { roundUp := true }⟩
    let fs := striped 1001
    let config := stripedConfig 1001
    parse (Command.reconcile.name :: groups.flatMap Group.tokens) = .ok invocation ∧
      Raises .roundUp groups ∧
      invocation.unrounded.load.perform fs = (.ok config, fs) ∧
      config.code.fanIn = .ok 2 ∧
      (∃ count ∈ WholeGroups 2 config.cluster.stripes, count < UInt32.size) ∧
      ∃ rounded : Config, invocation.load.perform fs = (.ok rounded, fs) ∧
        rounded.cluster.stripes.toNat = 1002 := by
  intro groups invocation fs config
  have parsed : parse (Command.reconcile.name :: groups.flatMap Group.tokens)
      = .ok invocation := by decide +kernel
  have raised : Raises .roundUp groups := ⟨⟨"--round-up-stripes", by decide⟩, by simp [groups]⟩
  have loaded : invocation.unrounded.load.perform fs = (.ok config, fs) := by decide +kernel
  have integral : config.code.fanIn = .ok 2 := by decide
  have whole : 1002 ∈ WholeGroups 2 config.cluster.stripes := ⟨by decide, by decide⟩
  have counted : ∃ count ∈ WholeGroups 2 config.cluster.stripes, count < UInt32.size :=
    ⟨1002, whole, by decide⟩
  obtain ⟨rounded, rounds, -, least, -⟩ :=
    (load_roundUp parsed raised loaded integral).1 counted
  have isLeast : IsLeast (WholeGroups 2 config.cluster.stripes) 1002 := by
    refine ⟨whole, ?_⟩
    rintro count ⟨⟨pairs, rfl⟩, enough⟩
    have : 1001 ≤ 2 * pairs := enough
    change 1002 ≤ 2 * pairs
    omega
  exact ⟨parsed, raised, loaded, integral, counted, rounded, rounds, least.unique isLeast⟩

/-- The largest number of stripes that can be counted is odd, and rounding it up to pairs
overflows. -/
theorem load_roundUp_overflows :
    let invocation : Invocation :=
      ⟨.reconcile, .ofString "run.toml", none, false, { roundUp := true }⟩
    let fs := striped 4294967295
    parse ["reconcile", "--config", "run.toml", "--round-up-stripes"] = .ok invocation ∧
      invocation.unrounded.load.perform fs = (.ok (stripedConfig 4294967295), fs) ∧
      (stripedConfig 4294967295).code.fanIn = .ok 2 ∧
      invocation.load.perform fs = (.error (.fault .overflow), fs) := by
  decide +kernel

end CommandLine

end Restripe
