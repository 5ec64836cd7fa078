import Restripe.Proofs.Reconcile.Stripe
import Restripe.Reconcile

/-!
# What the counters count

Adding up counters gives the sums of their values, as long as these fit.  So the counters of all
stripes hold how often each of them was bumped, and what a block bumps can be told from its entry
alone: from its place in the stripe, the node of its source and its location.
-/

namespace Restripe

open Outcome

/-! ## Adding up -/

namespace Stats

variable {left right result : Stats} {α : Type}

theorem eq_of_toNat_value (same : ∀ counter, (left.value counter).toNat =
    (right.value counter).toNat) : left = right := by
  have values (counter : Counter) : left.value counter = right.value counter :=
    UInt64.toNat_inj.mp (same counter)
  cases left
  cases right
  have retained := values .retained
  have relocated := values .relocated
  have minted := values .minted
  have deferred := values .deferred
  have reEncoded := values .reEncoded
  have parityMerged := values .parityMerged
  simp_all [value]

@[simp] theorem value_ofValues (values : Counter → UInt64) (counter : Counter) :
    (ofValues values).value counter = values counter := by
  cases counter <;> rfl

@[simp] theorem value_zero (counter : Counter) : zero.value counter = 0 :=
  value_ofValues _ counter

theorem sum_eq_ok {left right value : UInt64} :
    sum left right = .ok value ↔ value.toNat = left.toNat + right.toNat := by
  unfold sum
  split
  · rename_i fits
    rw [pure_eq, Except.ok.injEq, ← UInt64.toNat_inj, UInt64.toNat_add, Nat.mod_eq_of_lt fits,
      eq_comm]
  · rename_i tooLarge
    simp only [throw_eq, reduceCtorEq, false_iff]
    intro same
    apply tooLarge
    rw [← same]
    exact value.toNat_lt

theorem absorb_eq_ok : left.absorb right = .ok result ↔ ∀ counter,
    (result.value counter).toNat = (left.value counter).toNat + (right.value counter).toNat := by
  simp only [absorb, bind_eq_ok, sum_eq_ok, pure_eq, Except.ok.injEq]
  constructor
  · intro added counter
    obtain ⟨_, retained, _, relocated, _, minted, _, deferred, _, reEncoded, _, parityMerged,
      same⟩ := added
    rw [← same]
    cases counter <;> assumption
  · intro sums
    exact ⟨_, sums .retained, _, sums .relocated, _, sums .minted, _, sums .deferred, _,
      sums .reEncoded, _, sums .parityMerged, rfl⟩

theorem bump_eq_ok {counter : Counter} : left.bump counter = .ok result ↔ ∀ other,
    (result.value other).toNat = (left.value other).toNat + [counter].count other := by
  have once (other : Counter) :
      (if other = counter then (1 : UInt64) else 0).toNat = [counter].count other := by
    by_cases same : other = counter
    · simp [same]
    · simp [same, Ne.symm same]
  simp only [bump, absorb_eq_ok, value_ofValues, once]

/-- Where each step adds its weights to the counters, a run adds the weights of all its steps. -/
theorem foldlM_eq_ok {step : Stats → α → Except Error Stats} (weight : α → Counter → Nat)
    (adds : ∀ stats item result, step stats item = .ok result ↔ ∀ counter,
      (result.value counter).toNat = (stats.value counter).toNat + weight item counter)
    (items : List α) (start : Stats) :
    items.foldlM step start = .ok result ↔ ∀ counter, (result.value counter).toNat =
      (start.value counter).toNat + (items.map (weight · counter)).sum := by
  induction items generalizing start with
  | nil =>
      simp only [List.foldlM_nil, pure_eq, Except.ok.injEq, List.map_nil, List.sum_nil,
        Nat.add_zero]
      constructor
      · intro same counter
        rw [same]
      · intro same
        exact (eq_of_toNat_value same).symm
  | cons item items ih =>
      simp only [List.foldlM_cons, bind_eq_ok, ih, adds, List.map_cons, List.sum_cons]
      constructor
      · intro run counter
        obtain ⟨next, first, rest⟩ := run
        rw [rest counter, first counter, Nat.add_assoc]
      · intro sums
        -- The values after the first step are below the final ones, so counters can hold them.
        have fits (counter : Counter) :
            (start.value counter).toNat + weight item counter < UInt64.size := by
          have bound := (result.value counter).toNat_lt_size
          have total := sums counter
          omega
        refine ⟨ofValues fun counter =>
          .ofNat ((start.value counter).toNat + weight item counter), ?_, ?_⟩
        · intro counter
          rw [value_ofValues, UInt64.toNat_ofNat_of_lt' (fits counter)]
        · intro counter
          rw [value_ofValues, UInt64.toNat_ofNat_of_lt' (fits counter), sums counter,
            Nat.add_assoc]

theorem tally_eq_ok {counters : List Counter} : tally counters = .ok result ↔
    ∀ counter, (result.value counter).toNat = counters.count counter := by
  have bumps (counter : Counter) :
      (counters.map fun bumped => [bumped].count counter).sum = counters.count counter := by
    induction counters with
    | nil => rfl
    | cons bumped counters ih =>
        rw [List.map_cons, List.sum_cons, ih, ← List.count_append]
        rfl
  rw [tally, foldlM_eq_ok (fun bumped counter => [bumped].count counter)
    fun _ _ _ => bump_eq_ok]
  simp only [bumps, value_zero, UInt64.toNat_zero, Nat.zero_add]

end Stats

namespace Reconciliation

theorem stats_eq_ok {stripes : List StripeOutcome} {result : Stats} :
    stats stripes = .ok result ↔ ∀ counter,
      (result.value counter).toNat = (stripes.flatMap StripeOutcome.counts).count counter := by
  have absorbs (start : Stats) (stripe : StripeOutcome) (result : Stats) :
      (do start.absorb (← Stats.tally stripe.counts)) = Except.ok result ↔ ∀ counter,
        (result.value counter).toNat =
          (start.value counter).toNat + stripe.counts.count counter := by
    simp only [bind_eq_ok, Stats.tally_eq_ok, Stats.absorb_eq_ok]
    constructor
    · intro added counter
      obtain ⟨own, counted, sums⟩ := added
      rw [sums counter, counted counter]
    · intro sums
      have fits (counter : Counter) : stripe.counts.count counter < UInt64.size := by
        have bound := (result.value counter).toNat_lt_size
        have total := sums counter
        omega
      have counted (counter : Counter) :
          ((Stats.ofValues fun counter => .ofNat (stripe.counts.count counter)).value
            counter).toNat = stripe.counts.count counter := by
        rw [Stats.value_ofValues, UInt64.toNat_ofNat_of_lt' (fits counter)]
      refine ⟨_, counted, ?_⟩
      intro counter
      rw [sums counter, counted counter]
  rw [stats, Stats.foldlM_eq_ok _ absorbs]
  simp only [Stats.value_zero, UInt64.toNat_zero, Nat.zero_add, List.count_flatMap]
  rfl

/-! ## What a block bumps -/

/-- Whether a block of a new stripe is a data block that is known to have its node already. -/
def retains (input : Reconciliation) (key : BlockKey) (node : NodeId) : Bool :=
  !input.managed && decide (key.block < input.code.dataAfter) &&
    (input.source? key >>= input.before.find?).any (·.node == node)

/-- What an entry of the new table counts for: a parity block is minted, and a data block whose old
node is known is retained or relocated; either of them may be deferred as well. -/
def recount (input : Reconciliation) (entry : Entry) : List Counter :=
  (if input.code.dataAfter ≤ entry.key.block then [.minted]
    else if input.managed then []
    else if input.retains entry.key entry.node then [.retained] else [.relocated]) ++
  if entry.location.isPending then [.deferred] else []

variable {input : Reconciliation} {group : StripeGroup} {key source : BlockKey} {node : NodeId}
  {fanIn : UInt16} {location : Location} {counts : List Counter}

theorem nodup_recount (input : Reconciliation) (entry : Entry) : (input.recount entry).Nodup := by
  unfold recount
  split
  · split <;> simp
  · split
    · split <;> simp
    · split <;> split <;> simp

theorem count_flatMap_recount (input : Reconciliation) (counter : Counter) (entries : List Entry) :
    (entries.flatMap input.recount).count counter =
      entries.countP fun entry => counter ∈ input.recount entry := by
  induction entries with
  | nil => rfl
  | cons entry entries ih =>
      rw [List.flatMap_cons, List.count_append, ih, List.countP_cons, Nat.add_comm,
        (nodup_recount input entry).count]
      simp

/-- What an entry must be like to count for a counter.  No entry counts for a stripe. -/
def CountsFor (input : Reconciliation) (entry : Entry) : Counter → Prop
  | .minted => input.code.dataAfter ≤ entry.key.block
  | .retained => input.retains entry.key entry.node = true
  | .relocated => entry.key.block < input.code.dataAfter ∧ input.managed = false ∧
      input.retains entry.key entry.node = false
  | .deferred => entry.location.isPending = true
  | .reEncoded | .parityMerged => False

theorem mem_recount {entry : Entry} {counter : Counter} :
    counter ∈ input.recount entry ↔ input.CountsFor entry counter := by
  by_cases isParity : input.code.dataAfter ≤ entry.key.block
  case pos =>
    have notData := UInt16.not_lt.mpr isParity
    cases counter <;> simp [recount, CountsFor, retains, isParity, notData]
  case neg =>
    have isData := UInt16.not_le.mp isParity
    cases managed : input.managed with
    | true => cases counter <;> simp [recount, CountsFor, retains, isParity, managed]
    | false =>
        cases kept : input.retains entry.key entry.node <;> cases counter <;>
          simp [recount, CountsFor, isParity, isData, managed, kept]

theorem counts_of_carry (success : carry input node source = .ok (location, counts)) :
    counts = (if input.managed then []
        else if (input.before.find? source).any (·.node == node) then [.retained]
        else [.relocated]) ++
      if location.isPending then [.deferred] else [] := by
  unfold carry at success
  cases managed : input.managed with
  | true =>
      rw [if_pos managed] at success
      obtain ⟨rfl, rfl⟩ := Prod.mk.inj (Except.ok.inj success)
      rfl
  | false =>
      cases recorded : input.before.find? source with
      | none => simp [managed, recorded] at success
      | some before =>
          simp only [managed, recorded, Bool.false_eq_true, if_false] at success
          cases stored : before.location with
          | stored path =>
              simp only [stored] at success
              obtain ⟨place, moved, same⟩ := bind_eq_ok.mp success
              obtain ⟨rfl, rfl⟩ := Prod.mk.inj (Except.ok.inj same)
              unfold relocate at moved
              split at moved
              · obtain rfl := Except.ok.inj moved
                by_cases same : before.node = node <;> simp [same, Location.isPending]
              · cases moved
          | pending awaited =>
              simp only [stored] at success
              obtain ⟨rfl, rfl⟩ := Prod.mk.inj (Except.ok.inj success)
              by_cases same : before.node = node <;> simp [same, Location.isPending]

theorem counts_mint (input : Reconciliation) (node : NodeId) (key : BlockKey) :
    (mint input node key).2 =
      [.minted] ++ if (mint input node key).1.isPending then [.deferred] else [] := by
  unfold mint
  cases input.managed <;> rfl

/-- A block bumps what its entry counts for. -/
theorem counts_of_reconcileBlock (checked : input.Checked fanIn)
    (inGroups : input.groups[key.stripe.toNat]? = some group) {outcome : BlockOutcome}
    (success : reconcileBlock input group key node = .ok outcome) :
    outcome.counts = input.recount outcome.entry := by
  have whole := checked.admits.toWhole
  unfold reconcileBlock at success
  by_cases isData : key.block < input.code.dataAfter
  case pos =>
    have contributing := checked.length_contributing group (List.mem_of_getElem? inGroups)
    obtain ⟨source, found⟩ := exists_source whole contributing isData
    have carried : input.source? key = some source := by
      simp [Reconciliation.source?, inGroups, found]
    rw [if_pos isData, sourceKey_eq_ok whole.dataBefore_pos found, ok_bind] at success
    obtain ⟨⟨location, counts⟩, decided, same⟩ := bind_eq_ok.mp success
    obtain rfl := Except.ok.inj same
    rw [counts_of_carry decided]
    cases managed : input.managed <;>
      simp [recount, retains, carried, managed, isData, UInt16.not_le.mpr isData]
  case neg =>
    rw [if_neg isData, pure_bind] at success
    obtain rfl := Except.ok.inj success
    rw [recount, if_pos (UInt16.not_lt.mp isData)]
    exact counts_mint input node key

end Reconciliation

end Restripe
