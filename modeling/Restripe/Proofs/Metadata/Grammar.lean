import Restripe.Proofs.Metadata.BlockMapping
import Restripe.Proofs.Metadata.Canonical

/-!
# What rows mean

Each metadata format has its rules for what the tokens of a row mean: how many there are, which of
them are numbers and below which bound, and how a location is spelled.  The readers follow these
rules, and report a row that has no meaning under its own number.
-/

namespace Restripe

open Outcome

/-! ## The rules -/

/-- A token names a node of a cluster by its number. -/
structure NamesNode (limit : UInt16) (token : Text) (node : NodeId) : Prop where
  denotes : Decimal.Denotes token node.toNat
  bounded : node < limit

/-- A row of a placement names as many nodes as a stripe has blocks. -/
structure PlacementShape.Means (shape : PlacementShape) (row : List Text) (nodes : List NodeId) :
    Prop where
  width : row.length = shape.width.toNat
  nodes : List.Forall₂ (NamesNode shape.nodes) row nodes

/-- A row of a stripe-group file has the numbers of the contributing stripes, that of the method, and
then the nodes. -/
inductive StripeGroupShape.Means (shape : StripeGroupShape) : List Text → StripeGroup → Prop where
  | row {stripes nodes : List Text} {method : Text} {group : StripeGroup}
      (fanIn : stripes.length = shape.fanIn.toNat) (width : nodes.length = shape.width.toNat)
      (contributing : List.Forall₂ (fun token (stripe : StripeId) =>
        Decimal.Denotes token stripe.toNat) stripes group.contributing)
      (isMethod : Decimal.Denotes method group.method.id.toNat)
      (assigned : List.Forall₂ (NamesNode shape.nodes) nodes group.nodes) :
      Means shape (stripes ++ method :: nodes) group

namespace ProvenanceTable

/-- A location is a path, as long as it does not start like a pending mark, or else a pending mark
that is new or has the numbers of a source. -/
inductive MeansLocation : Text → Location → Prop where
  | stored {token : Text} (unmarked : ¬pendingMark <+: token) :
      MeansLocation token (.stored ⟨Utf8.encode token⟩)
  | new : MeansLocation (pendingMark ++ newMark) (.pending none)
  | source {stripe block : Text} {key : BlockKey} (isStripe : Decimal.Denotes stripe key.stripe.toNat)
      (isBlock : Decimal.Denotes block key.block.toNat) :
      MeansLocation (pendingMark ++ (stripe ++ ':' :: block)) (.pending (some key))

/-- A row of a block mapping has the numbers of the stripe, the block and the node, and then the
location. -/
inductive MeansEntry : List Text → Entry → Prop where
  | row {stripe block node location : Text} {entry : Entry}
      (isStripe : Decimal.Denotes stripe entry.key.stripe.toNat)
      (isBlock : Decimal.Denotes block entry.key.block.toNat)
      (isNode : Decimal.Denotes node entry.node.toNat)
      (isLocation : MeansLocation location entry.location) :
      MeansEntry [stripe, block, node, location] entry

/-- Rows of a block mapping mean the table that has their entries, no two of them under one key. -/
def Means (rows : List (List Text)) (table : ProvenanceTable) : Prop :=
  ∃ entries, List.Forall₂ MeansEntry rows entries ∧ (entries.map Entry.key).Nodup ∧
    entries.Perm table.entries

end ProvenanceTable

/-! ## Columns -/

/-- A reader reports each of its flaws on the line of its row. -/
def Row.Blames {α : Type} (row : Row) (outcome : Except Flaw α) : Prop :=
  ∀ flaw, outcome = .error flaw → flaw.line = row.line

namespace Row

variable {α β : Type} {row : Row}

theorem blames_ok (value : α) : row.Blames (.ok value) := by
  intro flaw failed
  cases failed

theorem blames_error (cause : Malformed) :
    row.Blames (.error ⟨row.line, cause⟩ : Except Flaw α) := by
  intro flaw failed
  rw [← Except.error.inj failed]

theorem blames_bind {outcome : Except Flaw α} {next : α → Except Flaw β}
    (first : row.Blames outcome) (second : ∀ value, row.Blames (next value)) :
    row.Blames (outcome >>= next) := by
  intro flaw failed
  rcases bind_eq_error.mp failed with early | ⟨value, -, late⟩
  · exact first flaw early
  · exact second value flaw late

theorem blames_token (row : Row) (field : Field) (read? : Text → Option α) (column : Nat)
    (token : Text) : row.Blames (row.token field read? column token) := by
  unfold Row.token
  split
  · exact blames_ok _
  · exact blames_error _

theorem blames_node (row : Row) (limit : UInt16) (column : Nat) (token : Text) :
    row.Blames (row.node limit column token) := by
  apply blames_bind (blames_token row _ _ column token)
  intro node
  dsimp only
  split
  · exact blames_error _
  · exact blames_ok node

theorem blames_columns {read : Nat → Text → Except Flaw α}
    (each : ∀ column token, row.Blames (read column token)) (first : Nat) (tokens : List Text) :
    row.Blames (columns read first tokens) := by
  induction tokens generalizing first with
  | nil => exact blames_ok []
  | cons token tokens ih =>
      apply blames_bind (each first token)
      intro value
      apply blames_bind (ih (first + 1))
      intro others
      exact blames_ok _

theorem node_eq_ok {limit : UInt16} {column : Nat} {token : Text} {node : NodeId} :
    row.node limit column token = .ok node ↔ NamesNode limit token node := by
  rw [Row.node, bind_eq_ok]
  simp only [Row.token_eq_ok, Decimal.uint16?_eq_some]
  constructor
  · rintro ⟨other, denotes, read⟩
    split at read
    · cases read
    · rename_i inside
      obtain rfl := Except.ok.inj read
      exact ⟨denotes, UInt16.not_le.mp inside⟩
  · intro names
    exact ⟨node, names.denotes, if_neg (UInt16.not_le.mpr names.bounded)⟩

/-- Tokens are read one a column where each of them is. -/
theorem columns_eq_ok {read : Nat → Text → Except Flaw α} {means : Text → α → Prop}
    (each : ∀ column token value, read column token = .ok value ↔ means token value) {first : Nat}
    {tokens : List Text} {values : List α} :
    columns read first tokens = .ok values ↔ List.Forall₂ means tokens values := by
  induction tokens generalizing first values with
  | nil =>
      rw [List.forall₂_nil_left_iff, columns, pure_eq, Except.ok.injEq, eq_comm]
  | cons token tokens ih =>
      simp only [columns, bind_eq_ok, each, ih, pure_eq, Except.ok.injEq,
        List.forall₂_cons_left_iff]
      constructor
      · rintro ⟨value, head, others, tail, rfl⟩
        exact ⟨value, others, head, tail, rfl⟩
      · rintro ⟨value, others, head, tail, rfl⟩
        exact ⟨value, head, others, tail, rfl⟩

theorem columns_node_eq_ok {limit : UInt16} {first : Nat} {tokens : List Text}
    {nodes : List NodeId} : columns (row.node limit) first tokens = .ok nodes ↔
      List.Forall₂ (NamesNode limit) tokens nodes := by
  apply columns_eq_ok
  intro column token node
  exact node_eq_ok

end Row

/-! ## Placements and stripe groups -/

theorem Placement.readRow_eq_ok {shape : PlacementShape} {row : Row} {nodes : List NodeId} :
    readRow shape row = .ok nodes ↔ shape.Means row.tokens nodes := by
  unfold readRow
  split
  · rename_i misshapen
    simp only [throw_eq, reduceCtorEq, false_iff]
    intro means
    exact misshapen means.width
  · rename_i width
    rw [Decidable.not_not] at width
    rw [Row.columns_node_eq_ok]
    exact ⟨fun names => ⟨width, names⟩, fun means => means.nodes⟩

theorem Placement.blames_readRow (shape : PlacementShape) (row : Row) :
    row.Blames (readRow shape row) := by
  unfold readRow
  split
  · exact Row.blames_error _
  · exact Row.blames_columns (Row.blames_node row shape.nodes) 0 row.tokens

namespace StripeGroup

theorem readMethod_eq_ok {row : Row} {column : Nat} {token : Text} {method : EncodeMethod} :
    readMethod row column token = .ok method ↔ Decimal.Denotes token method.id.toNat := by
  rw [readMethod, bind_eq_ok]
  simp only [Row.token_eq_ok, Decimal.uint8?_eq_some]
  constructor
  · rintro ⟨id, denotes, read⟩
    split at read
    · rename_i found
      obtain rfl := Except.ok.inj read
      rwa [EncodeMethod.id_of_ofId? found]
    · cases read
  · intro denotes
    exact ⟨method.id, denotes, by simp⟩

theorem blames_readMethod (row : Row) (column : Nat) (token : Text) :
    row.Blames (readMethod row column token) := by
  apply Row.blames_bind (Row.blames_token row _ _ column token)
  intro id
  split
  · exact Row.blames_ok _
  · exact Row.blames_error _

theorem readRow_iff {shape : StripeGroupShape} {row : Row} {group : StripeGroup} :
    readRow shape row = .ok group ↔ shape.Means row.tokens group := by
  have stripes_iff {stripes : List Text} : Row.columns (row.token .contributingStripe
      Decimal.uint32?) 0 stripes = .ok group.contributing ↔ List.Forall₂ (fun token
        (stripe : StripeId) => Decimal.Denotes token stripe.toNat) stripes group.contributing :=
    Row.columns_eq_ok fun _ _ _ => by rw [Row.token_eq_ok, Decimal.uint32?_eq_some]
  constructor
  · intro read
    obtain ⟨stripes, method, nodes, parts, fanIn, width, stripesRead, methodRead, nodesRead⟩ :=
      readRow_eq_ok read
    rw [parts]
    exact .row fanIn width (stripes_iff.mp stripesRead) (readMethod_eq_ok.mp methodRead)
      (Row.columns_node_eq_ok.mp nodesRead)
  · intro means
    generalize parts : row.tokens = tokens at means
    cases means with
    | @row stripes nodes method _ fanIn width contributing isMethod assigned =>
        have count : row.tokens.length = shape.fieldsPerRow := by
          rw [parts, List.length_append, List.length_cons, fanIn, width,
            StripeGroupShape.fieldsPerRow, Nat.add_assoc, Nat.add_comm shape.width.toNat]
        have front : row.tokens.take shape.fanIn.toNat = stripes := by
          rw [parts, List.take_left' fanIn]
        have others : row.tokens.drop shape.fanIn.toNat = method :: nodes := by
          rw [parts, List.drop_left' fanIn]
        simp only [readRow, count, front, others, stripes_iff.mpr contributing,
          readMethod_eq_ok.mpr isMethod, Row.columns_node_eq_ok.mpr assigned, ok_bind, ne_eq, not_true_eq_false,
          if_false]
        rfl

theorem blames_readRow (shape : StripeGroupShape) (row : Row) : row.Blames (readRow shape row) := by
  have inGroup (method : Text) (nodes : List Text) : row.Blames (do
      let contributing ← Row.columns (row.token .contributingStripe Decimal.uint32?) 0
        (row.tokens.take shape.fanIn.toNat)
      let method ← readMethod row shape.fanIn.toNat method
      let nodes ← Row.columns (row.node shape.nodes) (shape.fanIn.toNat + 1) nodes
      return ⟨contributing, method, nodes⟩ : Except Flaw StripeGroup) := by
    apply Row.blames_bind (Row.blames_columns (Row.blames_token row _ _) 0 _)
    intro contributing
    apply Row.blames_bind (blames_readMethod row _ method)
    intro method
    apply Row.blames_bind (Row.blames_columns (Row.blames_node row shape.nodes) _ nodes)
    intro nodes
    exact Row.blames_ok _
  unfold readRow
  dsimp only
  split
  · exact Row.blames_error _
  · split
    · exact Row.blames_error _
    · exact inGroup _ _

end StripeGroup

/-! ## Block mappings -/

namespace ProvenanceTable

theorem readLocation?_eq_some {token : Text} {location : Location} :
    readLocation? token = some location ↔ MeansLocation token location := by
  constructor
  · intro read
    cases location with
    | stored path =>
        obtain ⟨rfl, unmarked⟩ := readLocation?_eq_stored read
        exact .stored unmarked
    | pending source =>
        obtain ⟨rest, rfl, ⟨rfl, rfl⟩ | ⟨key, keyRead, rfl⟩⟩ := readLocation?_eq_pending read
        · exact .new
        · obtain ⟨stripe, block, rfl, stripeRead, blockRead⟩ := readSource?_eq_some keyRead
          exact .source (Decimal.uint32?_eq_some.mp stripeRead)
            (Decimal.uint16?_eq_some.mp blockRead)
  · intro means
    cases means with
    | stored unmarked =>
        rw [← List.isPrefixOf_iff_prefix] at unmarked
        rw [readLocation?, if_neg unmarked]
    | new => rw [readLocation?_pending, if_pos rfl]
    | source isStripe isBlock =>
        rw [readLocation?_pending, if_neg (append_colon_ne_newMark _ _),
          readSource?_append (Decimal.uint32?_eq_some.mpr isStripe)
            (Decimal.uint16?_eq_some.mpr isBlock)]
        rfl

theorem readEntry_iff {row : Row} {entry : Entry} :
    readEntry row = .ok entry ↔ MeansEntry row.tokens entry := by
  constructor
  · intro read
    obtain ⟨stripe, block, node, location, parts, stripeRead, blockRead, nodeRead, locationRead⟩ :=
      readEntry_eq_ok read
    rw [parts]
    exact .row (Decimal.uint32?_eq_some.mp stripeRead) (Decimal.uint16?_eq_some.mp blockRead)
      (Decimal.uint16?_eq_some.mp nodeRead) (readLocation?_eq_some.mp locationRead)
  · intro means
    generalize parts : row.tokens = tokens at means
    cases means with
    | row isStripe isBlock isNode isLocation =>
        simp only [readEntry, parts, Row.token_eq_ok.mpr (Decimal.uint32?_eq_some.mpr isStripe),
          Row.token_eq_ok.mpr (Decimal.uint16?_eq_some.mpr isBlock),
          Row.token_eq_ok.mpr (Decimal.uint16?_eq_some.mpr isNode),
          readLocation?_eq_some.mpr isLocation, ok_bind]
        rfl

theorem blames_readEntry (row : Row) : row.Blames (readEntry row) := by
  unfold readEntry
  split
  · rename_i stripe block node location _
    apply Row.blames_bind (Row.blames_token row _ _ 0 stripe)
    intro stripe
    apply Row.blames_bind (Row.blames_token row _ _ 1 block)
    intro block
    apply Row.blames_bind (Row.blames_token row _ _ 2 node)
    intro node
    split
    · exact Row.blames_ok _
    · exact Row.blames_error _
  · exact Row.blames_error _

theorem blames_readInto (table : ProvenanceTable) (row : Row) :
    row.Blames (readInto table row) := by
  apply Row.blames_bind (blames_readEntry row)
  intro entry
  split
  · exact Row.blames_error _
  · exact Row.blames_ok _

end ProvenanceTable

end Restripe
