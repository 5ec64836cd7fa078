import Restripe.Metadata.Row

/-!
# Provenance tables

A provenance table records of every block which node holds it and where it is.  The entries are kept
in the order of their keys and no key occurs twice, so two tables with the same entries are equal.
-/

namespace Restripe

/-- Entries are in the order of their keys, without repetition. -/
def Entry.Ascending (entries : List Entry) : Prop :=
  entries.Pairwise fun earlier later => earlier.key < later.key

instance (entries : List Entry) : Decidable (Entry.Ascending entries) :=
  inferInstanceAs (Decidable (List.Pairwise _ entries))

/-- Add an entry at its place, or put it in the place of the entry with the same key. -/
def Entry.place (entry : Entry) : List Entry → List Entry
  | [] => [entry]
  | head :: tail =>
      if entry.key < head.key then entry :: head :: tail
      else if entry.key = head.key then entry :: tail
      else head :: place entry tail

namespace Entry

theorem mem_of_mem_place {entry other : Entry} {entries : List Entry}
    (membership : other ∈ entry.place entries) : other = entry ∨ other ∈ entries := by
  induction entries with
  | nil => simpa [place] using membership
  | cons head tail ih =>
      simp only [place] at membership
      split at membership
      · simpa using membership
      · split at membership
        · simp only [List.mem_cons] at membership ⊢
          rcases membership with same | inTail
          · exact .inl same
          · exact .inr (.inr inTail)
        · simp only [List.mem_cons] at membership ⊢
          rcases membership with same | inTail
          · exact .inr (.inl same)
          · rcases ih inTail with same | inTail
            · exact .inl same
            · exact .inr (.inr inTail)

theorem ascending_place (entry : Entry) {entries : List Entry} (ascending : Ascending entries) :
    Ascending (entry.place entries) := by
  induction entries with
  | nil => simp [place, Ascending]
  | cons head tail ih =>
      have headLess := (List.pairwise_cons.mp ascending).1
      have tailAscending := (List.pairwise_cons.mp ascending).2
      simp only [place]
      split
      · rename_i less
        refine List.pairwise_cons.mpr ⟨?_, ascending⟩
        intro other membership
        rcases List.mem_cons.mp membership with rfl | inTail
        · exact less
        · exact BlockKey.lt_trans less (headLess other inTail)
      · rename_i notLess
        split
        · rename_i same
          refine List.pairwise_cons.mpr ⟨?_, tailAscending⟩
          intro other membership
          rw [same]
          exact headLess other membership
        · rename_i different
          refine List.pairwise_cons.mpr ⟨?_, ih tailAscending⟩
          intro other membership
          rcases mem_of_mem_place membership with rfl | inTail
          · exact BlockKey.lt_of_not_lt_of_ne notLess different
          · exact headLess other inTail

end Entry

/-- What is recorded of the blocks of one epoch. -/
structure ProvenanceTable where
  entries : List Entry
  ascending : Entry.Ascending entries
  deriving DecidableEq

namespace ProvenanceTable

def empty : ProvenanceTable := ⟨[], List.Pairwise.nil⟩

instance : Inhabited ProvenanceTable := ⟨empty⟩

def size (table : ProvenanceTable) : Nat := table.entries.length

def find? (table : ProvenanceTable) (key : BlockKey) : Option Entry :=
  table.entries.find? (·.key = key)

def contains (table : ProvenanceTable) (key : BlockKey) : Bool :=
  (table.find? key).isSome

/-- Record a block, in the place of what was recorded of it. -/
def put (table : ProvenanceTable) (entry : Entry) : ProvenanceTable :=
  ⟨entry.place table.entries, Entry.ascending_place entry table.ascending⟩

/-- Record a block of which nothing is recorded yet. -/
def insert (table : ProvenanceTable) (entry : Entry) : Except Error ProvenanceTable :=
  if table.contains entry.key then throw (.internal (.duplicateEntry entry.key))
  else pure (table.put entry)

/-- Record blocks in order; of two entries with one key the later one stays. -/
def ofList (entries : List Entry) : ProvenanceTable :=
  entries.foldl put empty

/-!
## Block mappings

A block mapping is a provenance table in a file: one row an entry, in the order of the keys, with
the stripe, the block, the node and the location.  A location is a path or a pending mark.  Only a
path that reads back as one token can be written: text that is not empty, holds no blank and does
not start like a pending mark.
-/

/-- The mark of a location that is left to an outside catalog. -/
def pendingMark : Text := ['p', 'e', 'n', 'd', 'i', 'n', 'g', ':']

/-- The rest of a pending location that names no source. -/
def newMark : Text := ['n', 'e', 'w']

/-- The text of a path that can stand as one token and is not taken for a pending location. -/
def pathToken? (path : Path) : Option Text := do
  let text ← path.text?
  if text = [] ∨ pendingMark.isPrefixOf text ∨ text.any isBlank then none else some text

/-- The token of a location; a path that is no token has none. -/
def locationToken : Location → Except Path Text
  | .stored path =>
      match pathToken? path with
      | some token => pure token
      | none => throw path
  | .pending none => pure (pendingMark ++ newMark)
  | .pending (some source) =>
      pure (pendingMark ++ Decimal.digits source.stripe.toNat
        ++ ':' :: Decimal.digits source.block.toNat)

/-- The source that a pending location names. -/
def readSource? (text : Text) : Option BlockKey :=
  match text.dropWhile (· ≠ ':') with
  | [] => none
  | _ :: block => do
      return ⟨← Decimal.uint32? (text.takeWhile (· ≠ ':')), ← Decimal.uint16? block⟩

def readLocation? (token : Text) : Option Location :=
  if pendingMark.isPrefixOf token then
    let rest := token.drop pendingMark.length
    if rest = newMark then some (.pending none)
    else (readSource? rest).map fun source => .pending (some source)
  else
    some (.stored ⟨Utf8.encode token⟩)

def readEntry (row : Row) : Except Flaw Entry :=
  match row.tokens with
  | [stripe, block, node, location] => do
      let stripe ← row.token .stripeId Decimal.uint32? 0 stripe
      let block ← row.token .blockIndex Decimal.uint16? 1 block
      let node ← row.token .nodeId Decimal.uint16? 2 node
      match readLocation? location with
      | some location => return ⟨⟨stripe, block⟩, node, location⟩
      | none => throw ⟨row.line, .invalidPending location⟩
  | tokens => throw ⟨row.line, .entryFieldCount 4 tokens.length⟩

/-- Read a row of a block mapping into a table. -/
def readInto (table : ProvenanceTable) (row : Row) : Except Flaw ProvenanceTable := do
  let entry ← readEntry row
  if table.contains entry.key then
    throw ⟨row.line, .duplicateEntry entry.key⟩
  pure (table.put entry)

def parse (bytes : Bytes) : Except Flaw ProvenanceTable := do
  (← readRows bytes).foldlM readInto empty

def renderEntry (entry : Entry) : Except Error Text :=
  match locationToken entry.location with
  | .ok location =>
      pure (renderRow [Decimal.digits entry.key.stripe.toNat, Decimal.digits entry.key.block.toNat,
        Decimal.digits entry.node.toNat, location])
  | .error path => throw (.internal (.unwritableLocation entry.key path))

/-- The text of a block mapping, in the order of the keys. -/
def render (table : ProvenanceTable) : Except Error Text := do
  return (← table.entries.mapM renderEntry).flatten

end ProvenanceTable

end Restripe
