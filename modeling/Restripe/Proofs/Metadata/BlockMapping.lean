import Restripe.Proofs.FileSystem.Frame
import Restripe.Proofs.Metadata.Provenance
import Restripe.Proofs.Metadata.Row

/-!
# Block mappings written and read

A block mapping can be written where each of its paths fits in one token, and what is written is
read back as the same table.  The converse is weaker: a reader parts tokens at ASCII separators
alone, while the writer refuses every blank, so a mapping with some other blank in a path can be
read and not written.  Where it can be written and is in canonical form, it is written as it was
read.
-/

namespace Restripe

open Outcome

namespace ProvenanceTable

/-! ## Locations -/

/-- A path that can be written as one token: text that is not empty, holds no blank and is not taken
for a pending location. -/
structure Spells (token : Text) (path : Path) : Prop where
  bytes : path.bytes = Utf8.encode token
  notEmpty : token ≠ []
  notPending : ¬pendingMark <+: token
  noBlank : ∀ char ∈ token, isBlank char = false

theorem pathToken?_eq_some {path : Path} {token : Text} :
    pathToken? path = some token ↔ Spells token path := by
  simp only [pathToken?, Path.text?, Option.bind_eq_bind, Option.bind_eq_some_iff,
    Utf8.decode?_eq_some, Option.ite_none_left_eq_some, Option.some.injEq, not_or,
    List.isPrefixOf_iff_prefix, List.any_eq_true, not_exists, not_and, Bool.not_eq_true]
  constructor
  · intro accepted
    obtain ⟨text, bytes, ⟨notEmpty, notPending, noBlank⟩, same⟩ := accepted
    subst same
    exact ⟨bytes, notEmpty, notPending, noBlank⟩
  · intro spells
    exact ⟨token, spells.bytes, ⟨spells.notEmpty, spells.notPending, spells.noBlank⟩, rfl⟩

theorem locationToken_of_spells {token : Text} {path : Path} (spells : Spells token path) :
    locationToken (.stored path) = .ok token := by
  simp [locationToken, pathToken?_eq_some.mpr spells]

theorem spells_of_locationToken {token : Text} {path : Path}
    (written : locationToken (.stored path) = .ok token) : Spells token path := by
  rw [← pathToken?_eq_some]
  simp only [locationToken] at written
  split at written
  · rename_i other accepted
    rw [accepted, Except.ok.inj written]
  · cases written

theorem Spells.isToken {token : Text} {path : Path} (spells : Spells token path) :
    IsToken token := by
  refine ⟨spells.notEmpty, fun char member => ?_⟩
  cases separates : isSeparator char with
  | false => rfl
  | true =>
      have blank := isBlank_of_isSeparator separates
      rw [spells.noBlank char member] at blank
      cases blank

theorem readLocation?_of_spells {token : Text} {path : Path} (spells : Spells token path) :
    readLocation? token = some (.stored path) := by
  have notPending : pendingMark.isPrefixOf token = false := by
    rw [← Bool.not_eq_true, List.isPrefixOf_iff_prefix]
    exact spells.notPending
  simp only [readLocation?, notPending, Bool.false_eq_true, if_false, ← spells.bytes]

/-- Two numerals with a colon between them are read as a key. -/
theorem readSource?_append {stripe block : Text} {source : BlockKey}
    (stripeRead : Decimal.uint32? stripe = some source.stripe)
    (blockRead : Decimal.uint16? block = some source.block) :
    readSource? (stripe ++ ':' :: block) = some source := by
  have noColon : ∀ char ∈ stripe, (char ≠ ':' : Bool) = true := by
    intro char member
    rw [decide_eq_true_eq]
    rintro rfl
    exact (Decimal.uint32?_eq_some.mp stripeRead).notMem (by decide) (by decide) member
  simp only [readSource?, List.dropWhile_append_of_pos noColon,
    List.takeWhile_append_of_pos noColon]
  simp [stripeRead, blockRead]

theorem readSource?_digits (source : BlockKey) :
    readSource? (Decimal.digits source.stripe.toNat ++ ':' :: Decimal.digits source.block.toNat)
      = some source :=
  readSource?_append (Decimal.uint32?_digits _) (Decimal.uint16?_digits _)

theorem whole_pendingMark : ∀ char ∈ pendingMark, isSeparator char = false := by
  simp [pendingMark, isSeparator]

theorem readLocation?_pending (rest : Text) :
    readLocation? (pendingMark ++ rest) =
      if rest = newMark then some (.pending none)
      else (readSource? rest).map fun source => .pending (some source) := by
  have marked : pendingMark.isPrefixOf (pendingMark ++ rest) = true :=
    List.isPrefixOf_iff_prefix.mpr (List.prefix_append _ _)
  simp only [readLocation?, marked, if_true, List.drop_left]

theorem append_colon_ne_newMark (stripe block : Text) : stripe ++ ':' :: block ≠ newMark := by
  intro new
  have colon : ':' ∈ newMark := by simp [← new]
  exact absurd colon (by decide)

theorem readLocation?_locationToken {location : Location} {token : Text}
    (written : locationToken location = .ok token) :
    IsToken token ∧ readLocation? token = some location := by
  cases location with
  | stored path =>
      have spells := spells_of_locationToken written
      exact ⟨spells.isToken, readLocation?_of_spells spells⟩
  | pending source =>
      cases source with
      | none =>
          have same : token = pendingMark ++ newMark := (Except.ok.inj written).symm
          rw [same, readLocation?_pending, if_pos rfl]
          exact ⟨⟨by simp [pendingMark], by simp [pendingMark, newMark, isSeparator]⟩, rfl⟩
      | some source =>
          have same : token = pendingMark ++
              (Decimal.digits source.stripe.toNat ++ ':' :: Decimal.digits source.block.toNat) := by
            rw [← Except.ok.inj written, List.append_assoc]
          rw [same, readLocation?_pending, if_neg (append_colon_ne_newMark _ _),
            readSource?_digits]
          refine ⟨⟨by simp [pendingMark], ?_⟩, rfl⟩
          intro char member
          simp only [List.mem_append, List.mem_cons] at member
          rcases member with inMark | inStripe | isColon | inBlock
          · exact whole_pendingMark char inMark
          · exact isSeparator_of_isDigit (Decimal.isDigit_of_mem_digits inStripe)
          · rw [isColon]
            rfl
          · exact isSeparator_of_isDigit (Decimal.isDigit_of_mem_digits inBlock)

/-! ## Entries -/

/-- The tokens of an entry with the token of its location. -/
def entryTokens (entry : Entry) (location : Text) : List Text :=
  [Decimal.digits entry.key.stripe.toNat, Decimal.digits entry.key.block.toNat,
    Decimal.digits entry.node.toNat, location]

/-- The row that an entry is written as. -/
def Writes (entry : Entry) (row : List Text) : Prop :=
  ∃ location, locationToken entry.location = .ok location ∧ row = entryTokens entry location

theorem renderEntry_eq_ok {entry : Entry} {text : Text} :
    renderEntry entry = .ok text ↔ ∃ row, Writes entry row ∧ text = renderRow row := by
  unfold renderEntry Writes
  cases written : locationToken entry.location with
  | error path => simp
  | ok location =>
      simp only [pure_eq, Except.ok.injEq]
      constructor
      · intro same
        exact ⟨_, ⟨location, rfl, rfl⟩, same.symm⟩
      · intro writes
        obtain ⟨row, ⟨other, sameLocation, sameRow⟩, same⟩ := writes
        rw [same, sameRow, sameLocation]
        rfl

theorem Writes.isRow {entry : Entry} {row : List Text} (writes : Writes entry row) :
    IsRow row := by
  obtain ⟨location, written, same⟩ := writes
  rw [same]
  refine ⟨by simp [entryTokens], ?_⟩
  simp only [entryTokens, List.forall_mem_cons]
  exact ⟨isToken_digits _, isToken_digits _, isToken_digits _,
    (readLocation?_locationToken written).1, by simp⟩

theorem isRow_of_writes {entries : List Entry} {rows : List (List Text)}
    (writes : List.Forall₂ Writes entries rows) : ∀ row ∈ rows, IsRow row := by
  induction writes with
  | nil => simp
  | cons head _ ih => exact List.forall_mem_cons.mpr ⟨head.isRow, ih⟩

/-- The row of an entry is read as that entry. -/
theorem Writes.readEntry {entry : Entry} {row : List Text} (writes : Writes entry row)
    (line : Nat) : readEntry ⟨line, row⟩ = .ok entry := by
  obtain ⟨location, written, same⟩ := writes
  rw [same]
  simp [ProvenanceTable.readEntry, entryTokens, Row.token,
    (readLocation?_locationToken written).2]

/-! ## Tables -/

theorem mapM_renderEntry_eq_ok {entries : List Entry} {texts : List Text} :
    entries.mapM renderEntry = .ok texts ↔
      ∃ rows, List.Forall₂ Writes entries rows ∧ texts = rows.map renderRow := by
  rw [mapM_eq_ok]
  constructor
  · intro rendered
    induction rendered with
    | nil => exact ⟨[], .nil, rfl⟩
    | cons head _ ih =>
        obtain ⟨row, writes, same⟩ := renderEntry_eq_ok.mp head
        obtain ⟨rows, others, sameOthers⟩ := ih
        exact ⟨row :: rows, .cons writes others, by rw [same, sameOthers, List.map_cons]⟩
  · intro written
    obtain ⟨rows, writes, same⟩ := written
    rw [same, List.forall₂_map_right_iff]
    exact writes.imp fun entry row rowWrites => renderEntry_eq_ok.mpr ⟨row, rowWrites, rfl⟩

theorem render_eq_ok {table : ProvenanceTable} {text : Text} :
    table.render = .ok text ↔
      ∃ rows, List.Forall₂ Writes table.entries rows ∧ text = rows.flatMap renderRow := by
  simp only [render, bind_eq_ok, pure_eq, Except.ok.injEq, mapM_renderEntry_eq_ok]
  constructor
  · intro rendered
    obtain ⟨texts, ⟨rows, writes, sameTexts⟩, same⟩ := rendered
    exact ⟨rows, writes, by rw [← same, sameTexts, List.flatMap_def]⟩
  · intro rendered
    obtain ⟨rows, writes, same⟩ := rendered
    exact ⟨_, ⟨rows, writes, rfl⟩, by rw [same, List.flatMap_def]⟩

theorem readInto_eq_ok {table next : ProvenanceTable} {row : Row} :
    readInto table row = .ok next ↔
      ∃ entry, readEntry row = .ok entry ∧ table.insert entry = .ok next := by
  simp only [readInto, insert, bind_eq_ok]
  constructor
  · rintro ⟨entry, entryRead, put⟩
    split at put
    · cases put
    · rename_i fresh
      exact ⟨entry, entryRead, by rw [if_neg fresh, Except.ok.inj put]; rfl⟩
  · rintro ⟨entry, entryRead, inserted⟩
    split at inserted
    · cases inserted
    · rename_i fresh
      exact ⟨entry, entryRead, by rw [if_neg fresh, Except.ok.inj inserted]; rfl⟩

theorem foldlM_readInto_eq_ok {rows : List Row} {table result : ProvenanceTable} :
    rows.foldlM readInto table = .ok result ↔ ∃ entries,
      List.Forall₂ (fun row entry => readEntry row = .ok entry) rows entries ∧
        entries.foldlM insert table = .ok result := by
  induction rows generalizing table with
  | nil => simp
  | cons row rows ih =>
      simp only [List.foldlM_cons, bind_eq_ok, readInto_eq_ok, ih, List.forall₂_cons_left_iff]
      constructor
      · rintro ⟨_, ⟨entry, entryRead, first⟩, entries, read, inserted⟩
        refine ⟨entry :: entries, ⟨entry, entries, entryRead, read, rfl⟩, ?_⟩
        rw [List.foldlM_cons, first, ok_bind, inserted]
      · rintro ⟨_, ⟨entry, entries, entryRead, read, rfl⟩, inserted⟩
        rw [List.foldlM_cons] at inserted
        obtain ⟨next, first, inserted⟩ := bind_eq_ok.mp inserted
        exact ⟨next, ⟨entry, entryRead, first⟩, entries, read, inserted⟩

theorem parse_of_render {table : ProvenanceTable} {text : Text}
    (rendered : table.render = .ok text) :
    parse (Utf8.encode text) = .ok table := by
  obtain ⟨rows, writes, same⟩ := render_eq_ok.mp rendered
  have read : List.Forall₂ (fun row entry => readEntry row = .ok entry) (numberRows 1 rows)
      table.entries :=
    forall₂_numberRows (writes.flip.imp fun row entry written line =>
      Writes.readEntry written line)
  rw [parse, same, readRows_renderRow (isRow_of_writes writes), ok_bind]
  exact foldlM_readInto_eq_ok.mpr
    ⟨table.entries, read, foldlM_insert_eq_ok.mpr ⟨table.keys_nodup, .refl _⟩⟩

theorem exists_render {table : ProvenanceTable} : (∃ text, table.render = .ok text) ↔
    ∀ entry ∈ table.entries, ∀ path, entry.location = .stored path →
      ∃ token, Spells token path := by
  simp only [render, bind_eq_ok, pure_eq, Except.ok.injEq]
  constructor
  · intro rendered entry member path stored
    obtain ⟨text, texts, written, _⟩ := rendered
    obtain ⟨row, rowWritten⟩ := exists_of_mem_mapM written member
    obtain ⟨_, ⟨token, tokenWritten, _⟩, _⟩ := renderEntry_eq_ok.mp rowWritten
    rw [stored] at tokenWritten
    exact ⟨token, spells_of_locationToken tokenWritten⟩
  · intro spelled
    have each : ∀ entry ∈ table.entries, ∃ row, renderEntry entry = .ok row := by
      intro entry member
      have written : ∃ token, locationToken entry.location = .ok token := by
        cases stored : entry.location with
        | stored path =>
            obtain ⟨token, spells⟩ := spelled entry member path stored
            exact ⟨token, locationToken_of_spells spells⟩
        | pending source => cases source <;> exact ⟨_, rfl⟩
      obtain ⟨token, tokenWritten⟩ := written
      exact ⟨_, renderEntry_eq_ok.mpr ⟨_, ⟨token, tokenWritten, rfl⟩, rfl⟩⟩
    obtain ⟨texts, written⟩ := exists_mapM each
    exact ⟨_, texts, written, rfl⟩

/-- Loading undoes rendering: a table can be rendered where each of its paths fits in one token, and
every file with the rendered text is loaded as that table. -/
theorem load_of_render (table : ProvenanceTable) :
    ((∃ text, table.render = .ok text) ↔
      ∀ entry ∈ table.entries, ∀ path, entry.location = .stored path →
        ∃ token, Spells token path) ∧
    ∀ text, table.render = .ok text → parse (Utf8.encode text) = .ok table ∧
      ∀ (fs : FileSystem) (path : Path), fs.read path = .ok (Utf8.encode text) →
        (load path).perform fs = (.ok table, fs) :=
  ⟨exists_render, fun _ rendered => ⟨parse_of_render rendered, fun _ _ content =>
    loadWith_eq_ok.mpr ⟨rfl, _, content, parse_of_render rendered⟩⟩⟩

/-! ## Rendering what was read -/

theorem readLocation?_eq_stored {token : Text} {path : Path}
    (read : readLocation? token = some (.stored path)) :
    path = ⟨Utf8.encode token⟩ ∧ ¬pendingMark <+: token := by
  simp only [readLocation?] at read
  split at read
  · split at read
    · simp at read
    · simp at read
  · rename_i notMarked
    rw [List.isPrefixOf_iff_prefix] at notMarked
    simp only [Option.some.injEq, Location.stored.injEq] at read
    exact ⟨read.symm, notMarked⟩

theorem readLocation?_eq_pending {token : Text} {source : Option BlockKey}
    (read : readLocation? token = some (.pending source)) :
    ∃ rest, token = pendingMark ++ rest ∧
      (rest = newMark ∧ source = none ∨
        ∃ key, readSource? rest = some key ∧ source = some key) := by
  have marked : pendingMark <+: token := by
    by_contra notMarked
    rw [← List.isPrefixOf_iff_prefix, Bool.not_eq_true] at notMarked
    simp [readLocation?, notMarked] at read
  obtain ⟨rest, same⟩ := marked
  rw [← same, readLocation?_pending] at read
  refine ⟨rest, same.symm, ?_⟩
  split at read
  · rename_i isNew
    simp only [Option.some.injEq, Location.pending.injEq] at read
    exact .inl ⟨isNew, read.symm⟩
  · obtain ⟨key, keyRead, sameSource⟩ := Option.map_eq_some_iff.mp read
    simp only [Location.pending.injEq] at sameSource
    exact .inr ⟨key, keyRead, sameSource.symm⟩

theorem readSource?_eq_some {rest : Text} {source : BlockKey}
    (read : readSource? rest = some source) :
    ∃ stripe block, rest = stripe ++ ':' :: block ∧ Decimal.uint32? stripe = some source.stripe ∧
      Decimal.uint16? block = some source.block := by
  simp only [readSource?] at read
  split at read
  · cases read
  · rename_i colon block cut
    simp only [Option.bind_eq_bind, Option.bind_eq_some_iff, Option.pure_def,
      Option.some.injEq] at read
    obtain ⟨stripe, stripeRead, number, blockRead, same⟩ := read
    have isColon : colon = ':' := by
      have head := List.head?_dropWhile_not (· ≠ ':') rest
      rw [cut] at head
      simpa using head
    refine ⟨rest.takeWhile (· ≠ ':'), block, ?_, ?_, ?_⟩
    · have whole := List.takeWhile_append_dropWhile (p := (· ≠ ':')) (l := rest)
      rw [cut, isColon] at whole
      exact whole.symm
    · rw [stripeRead, ← same]
    · rw [blockRead, ← same]

/-- A row in canonical form: the numbers carry no sign and no leading zero, nor do those of a
pending location. -/
structure CanonicalRow (row : List Text) : Prop extends IsRow row where
  numbers : ∀ token ∈ row.take 3, Decimal.Plain token
  source : ∀ stripe block, pendingMark ++ stripe ++ ':' :: block ∈ row →
    Decimal.Plain stripe ∧ Decimal.Plain block

/-- The key that a row begins with. -/
def rowKey? : List Text → Option BlockKey
  | stripe :: block :: _ => do
      return ⟨← Decimal.uint32? stripe, ← Decimal.uint16? block⟩
  | _ => none

/-- A text in canonical form: canonical rows, single spaces between their tokens and a line feed
after each of them, in the strict order of their keys. -/
def Canonical (text : Text) : Prop :=
  ∃ rows : List (List Text), text = rows.flatMap renderRow ∧ (∀ row ∈ rows, CanonicalRow row) ∧
    rows.Pairwise fun earlier later =>
      ∀ low high, rowKey? earlier = some low → rowKey? later = some high → low < high

/-- A row that is read as an entry holds its numbers and its location. -/
theorem readEntry_eq_ok {line : Nat} {row : List Text} {entry : Entry}
    (read : readEntry ⟨line, row⟩ = .ok entry) :
    ∃ stripe block node location, row = [stripe, block, node, location] ∧
      Decimal.uint32? stripe = some entry.key.stripe ∧
      Decimal.uint16? block = some entry.key.block ∧ Decimal.uint16? node = some entry.node ∧
      readLocation? location = some entry.location := by
  simp only [readEntry] at read
  split at read
  · rename_i stripe block node location
    obtain ⟨stripeId, stripeRead, read⟩ := bind_eq_ok.mp read
    obtain ⟨blockIndex, blockRead, read⟩ := bind_eq_ok.mp read
    obtain ⟨nodeId, nodeRead, read⟩ := bind_eq_ok.mp read
    split at read
    · rename_i place placeRead
      have same := Except.ok.inj read
      refine ⟨stripe, block, node, location, rfl, ?_⟩
      rw [← same]
      exact ⟨Row.token_eq_ok.mp stripeRead, Row.token_eq_ok.mp blockRead,
        Row.token_eq_ok.mp nodeRead, placeRead⟩
    · cases read
  · cases read

/-- A canonical location is written as it was read. -/
theorem eq_of_locationToken {token written : Text} {location : Location}
    (canonical : ∀ stripe block, token = pendingMark ++ stripe ++ ':' :: block →
      Decimal.Plain stripe ∧ Decimal.Plain block)
    (read : readLocation? token = some location) (writes : locationToken location = .ok written) :
    token = written := by
  cases location with
  | stored path =>
      have spells := spells_of_locationToken writes
      rw [(readLocation?_eq_stored read).1] at spells
      exact Utf8.encode_injective spells.bytes
  | pending source =>
      obtain ⟨rest, same, isNew | isSource⟩ := readLocation?_eq_pending read
      · obtain ⟨restNew, noSource⟩ := isNew
        subst noSource
        rw [same, restNew]
        exact Except.ok.inj writes
      · obtain ⟨key, keyRead, isKey⟩ := isSource
        subst isKey
        obtain ⟨stripe, block, parts, stripeRead, blockRead⟩ := readSource?_eq_some keyRead
        obtain ⟨stripePlain, blockPlain⟩ :=
          canonical stripe block (by rw [same, parts, List.append_assoc])
        rw [same, parts, stripePlain.eq_digits_of_uint32? stripeRead,
          blockPlain.eq_digits_of_uint16? blockRead, ← List.append_assoc]
        exact Except.ok.inj writes

/-- A canonical row is written as it was read. -/
theorem CanonicalRow.eq_of_writes {line : Nat} {row written : List Text} {entry : Entry}
    (canonical : CanonicalRow row) (read : readEntry ⟨line, row⟩ = .ok entry)
    (writes : Writes entry written) : row = written := by
  obtain ⟨stripe, block, node, location, same, stripeRead, blockRead, nodeRead, locationRead⟩ :=
    readEntry_eq_ok read
  obtain ⟨token, tokenWritten, sameWritten⟩ := writes
  have stripePlain := canonical.numbers stripe (by simp [same])
  have blockPlain := canonical.numbers block (by simp [same])
  have nodePlain := canonical.numbers node (by simp [same])
  have locationSame : location = token := by
    refine eq_of_locationToken ?_ locationRead tokenWritten
    intro sourceStripe sourceBlock parts
    exact canonical.source sourceStripe sourceBlock (by simp [same, ← parts])
  rw [sameWritten, same, entryTokens, stripePlain.eq_digits_of_uint32? stripeRead,
    blockPlain.eq_digits_of_uint16? blockRead, nodePlain.eq_digits_of_uint16? nodeRead,
    locationSame]

theorem rowKey?_of_readEntry {line : Nat} {row : List Text} {entry : Entry}
    (read : readEntry ⟨line, row⟩ = .ok entry) : rowKey? row = some entry.key := by
  obtain ⟨stripe, block, node, location, same, stripeRead, blockRead, _⟩ := readEntry_eq_ok read
  simp [same, rowKey?, stripeRead, blockRead]

theorem rowKey?_of_rows {rows : List Row} {entries : List Entry}
    (read : List.Forall₂ (fun row entry => readEntry row = .ok entry) rows entries) :
    (rows.map Row.tokens).map rowKey? = (entries.map Entry.key).map some := by
  induction read with
  | nil => rfl
  | cons head _ ih => simp only [List.map_cons, rowKey?_of_readEntry head, ih]

/-- Rows in the order of their keys are read as entries in that order. -/
theorem ascending_of_rows {first : Nat} {rows : List (List Text)} {entries : List Entry}
    (ordered : rows.Pairwise fun earlier later =>
      ∀ low high, rowKey? earlier = some low → rowKey? later = some high → low < high)
    (read : List.Forall₂ (fun row entry => readEntry row = .ok entry) (numberRows first rows)
      entries) : Entry.Ascending entries := by
  have keys := rowKey?_of_rows read
  rw [tokens_numberRows, List.map_map] at keys
  have orderedKeys : (rows.map rowKey?).Pairwise fun earlier later =>
      ∀ low high, earlier = some low → later = some high → low < high :=
    List.pairwise_map.mpr ordered
  rw [keys, List.pairwise_map] at orderedKeys
  exact orderedKeys.imp fun less => less _ _ rfl rfl

/-- Canonical rows that are read as a table are the rows that the table is written as. -/
theorem rows_eq_of_writes {rows written : List (List Text)} {entries : List Entry} {first : Nat}
    (canonical : ∀ row ∈ rows, CanonicalRow row)
    (read : List.Forall₂ (fun row entry => readEntry row = .ok entry) (numberRows first rows)
      entries)
    (writes : List.Forall₂ Writes entries written) : rows = written := by
  induction rows generalizing first entries written with
  | nil =>
      cases read
      cases writes
      rfl
  | cons row rows ih =>
      cases read with
      | cons head tail =>
          cases writes with
          | cons headWritten tailWritten =>
              rw [(canonical row List.mem_cons_self).eq_of_writes head headWritten,
                ih (fun other member => canonical other (List.mem_cons_of_mem row member)) tail
                  tailWritten]

/-- A table whose paths are tokens that are not taken for pending locations can be written where none
of them holds a blank. -/
theorem exists_render_of_tokens {table : ProvenanceTable}
    (tokens : ∀ entry ∈ table.entries, ∀ path, entry.location = .stored path →
      ∃ token, path.bytes = Utf8.encode token ∧ token ≠ [] ∧ ¬pendingMark <+: token) :
    (∃ text, table.render = .ok text) ↔
      ∀ entry ∈ table.entries, ∀ path, entry.location = .stored path →
        ∀ token, path.bytes = Utf8.encode token → ∀ char ∈ token, isBlank char = false := by
  rw [exists_render]
  constructor
  · intro spelled entry member path stored token bytesToken
    obtain ⟨other, spells⟩ := spelled entry member path stored
    have same : token = other := Utf8.encode_injective (bytesToken.symm.trans spells.bytes)
    exact same ▸ spells.noBlank
  · intro noBlanks entry member path stored
    obtain ⟨token, bytesToken, notEmpty, notPending⟩ := tokens entry member path stored
    exact ⟨token, bytesToken, notEmpty, notPending,
      noBlanks entry member path stored token bytesToken⟩

/-- A table that was read can be written where no path of it holds a blank.  What is then written is
read as the same table, and it is what was read if that was in canonical form. -/
theorem render_of_parse {bytes : Bytes} {table : ProvenanceTable}
    (read : parse bytes = .ok table) :
    ((∃ text, table.render = .ok text) ↔
      ∀ entry ∈ table.entries, ∀ path, entry.location = .stored path →
        ∀ token, path.bytes = Utf8.encode token → ∀ char ∈ token, isBlank char = false) ∧
    ∀ text, table.render = .ok text → parse (Utf8.encode text) = .ok table ∧
      ∀ original, bytes = Utf8.encode original → Canonical original → text = original := by
  obtain ⟨rows, rowsRead, tableRead⟩ := bind_eq_ok.mp read
  refine ⟨?_, fun text rendered => ⟨parse_of_render rendered, ?_⟩⟩
  · apply exists_render_of_tokens
    intro entry member path stored
    obtain ⟨entries, entriesRead, inserted⟩ := foldlM_readInto_eq_ok.mp tableRead
    obtain ⟨row, inRows, entryRead⟩ :=
      exists_of_forall₂ entriesRead.flip ((mem_of_foldlM_insert inserted).mp member)
    obtain ⟨stripe, block, node, location, tokens, _, _, _, locationRead⟩ :=
      readEntry_eq_ok entryRead
    rw [stored] at locationRead
    obtain ⟨samePath, notPending⟩ := readLocation?_eq_stored locationRead
    have isToken : IsToken location :=
      isToken_of_readRows rowsRead inRows (by simp [tokens])
    exact ⟨location, by rw [samePath], isToken.notEmpty, notPending⟩
  · intro original isOriginal canonical
    obtain ⟨originalRows, original_eq, canonicalRows, ordered⟩ := canonical
    have areRows : ∀ row ∈ originalRows, IsRow row := fun row member =>
      (canonicalRows row member).toIsRow
    rw [isOriginal, original_eq, readRows_renderRow areRows] at rowsRead
    rw [← Except.ok.inj rowsRead] at tableRead
    obtain ⟨entries, entriesRead, inserted⟩ := foldlM_readInto_eq_ok.mp tableRead
    have ascending := ascending_of_rows ordered entriesRead
    have isTable : table = ⟨entries, ascending⟩ := eq_of_perm (foldlM_insert_perm inserted)
    obtain ⟨written, writes, text_eq⟩ := render_eq_ok.mp rendered
    rw [isTable] at writes
    rw [text_eq, original_eq, rows_eq_of_writes canonicalRows entriesRead writes]

theorem parse_encode (text : Text) :
    parse (Utf8.encode text) = rowsOfLines 1 (lines text) >>= fun rows =>
      rows.foldlM readInto empty := by
  rw [parse, readRows, readText, Utf8.decode?_encode]
  rfl

/-- A mapping in canonical form with a path and a pending block. -/
theorem render_of_parse_pending :
    ∃ table, parse (Bytes.ofString "0 0 1 /d/a\n0 1 2 pending:3:4\n") = .ok table ∧
      (((∃ text, table.render = .ok text) ↔
        ∀ entry ∈ table.entries, ∀ path, entry.location = .stored path →
          ∀ token, path.bytes = Utf8.encode token → ∀ char ∈ token, isBlank char = false) ∧
      ∀ text, table.render = .ok text → parse (Utf8.encode text) = .ok table ∧
        ∀ original, Bytes.ofString "0 0 1 /d/a\n0 1 2 pending:3:4\n" = Utf8.encode original →
          Canonical original → text = original) := by
  have read : parse (Bytes.ofString "0 0 1 /d/a\n0 1 2 pending:3:4\n") = .ok
      ⟨[⟨⟨0, 0⟩, 1, .stored (.ofString "/d/a")⟩, ⟨⟨0, 1⟩, 2, .pending (some ⟨3, 4⟩)⟩],
        by decide⟩ := by
    rw [Bytes.ofString, parse_encode]
    rfl
  exact ⟨_, read, render_of_parse read⟩

/-- A no-break space parts no tokens, but a path that holds one is never written. -/
theorem parse_without_render :
    ∃ table, parse (Bytes.ofString "0 0 1 /d/a\u00a0b\n") = .ok table ∧
      ∀ text, table.render ≠ .ok text := by
  refine ⟨⟨[⟨⟨0, 0⟩, 1, .stored (.ofString "/d/a\u00a0b")⟩], by decide⟩, ?_, ?_⟩
  · rw [Bytes.ofString, parse_encode]
    rfl
  · intro text rendered
    obtain ⟨token, spells⟩ := exists_render.mp ⟨text, rendered⟩ _ List.mem_cons_self _ rfl
    have same : "/d/a\u00a0b".toList = token := Utf8.encode_injective spells.bytes
    have blank := spells.noBlank '\u00a0' (by rw [← same]; decide)
    exact absurd blank (by decide)

end ProvenanceTable

end Restripe
