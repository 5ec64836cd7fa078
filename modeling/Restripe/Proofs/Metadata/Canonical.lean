import Restripe.Proofs.FileSystem.Frame
import Restripe.Proofs.Metadata.Placement

/-!
# Files of numbers

Placements and stripe groups are files of numbers alone.  What is written of them is read back.
Conversely what is read can be written, whatever blanks, signs and leading zeros it had, and is then
read as the same; what is written is what was read exactly where that was in canonical form.
-/

namespace Restripe

open Outcome

/-! ## Canonical form -/

/-- A decimal number without sign and leading zeros. -/
structure IsNumeral (token : Text) : Prop where
  notEmpty : token ≠ []
  digits : ∀ char ∈ token, char.isDigit
  noLeadingZero : token.head? = some '0' → token = ['0']

/-- Rows of numbers in canonical form: single spaces between the numbers of a row, a line feed after
each row, and no other blank. -/
def IsCanonical (text : Text) : Prop :=
  ∃ rows : List (List Text), (∀ row ∈ rows, row ≠ [] ∧ ∀ token ∈ row, IsNumeral token) ∧
    text = rows.flatMap fun row => [' '].intercalate row ++ ['\n']

namespace IsNumeral

variable {token : Text} (numeral : IsNumeral token)

include numeral

theorem isToken : IsToken token :=
  ⟨numeral.notEmpty, fun char member => isSeparator_of_isDigit (numeral.digits char member)⟩

theorem plain : Decimal.Plain token where
  noSign sign := absurd (numeral.digits _ (List.mem_of_head? sign)) (by decide)
  noLeadingZero := numeral.noLeadingZero

end IsNumeral

theorem isNumeral_digits (value : Nat) : IsNumeral (Decimal.digits value) where
  notEmpty := Decimal.digits_ne_nil value
  digits _ member := Decimal.isDigit_of_mem_digits member
  noLeadingZero := (Decimal.plain_digits value).noLeadingZero

/-- A row is written with single spaces between its tokens and a line feed after the last. -/
theorem renderRow_eq_intercalate (row : List Text) :
    renderRow row = [' '].intercalate row ++ ['\n'] := by
  induction row using renderRow.induct with
  | case1 => rfl
  | case2 token => simp [renderRow]
  | case3 token others several ih =>
      obtain ⟨next, others, rfl⟩ := List.exists_cons_of_ne_nil several
      rw [renderRow, ih]
      · simp [List.intercalate]
      · exact several

/-! ## Formats -/

/-- A format of numbers: a value is written as a row of numerals, and every value that is admitted is
read back.  What is read is admitted, and is written as it was read where that was numerals. -/
structure NumberFormat {α : Type} (toRow : α → List Text) (readRow : Row → Except Flaw α)
    (admits : α → Prop) : Prop where
  numerals : ∀ value, ∀ token ∈ toRow value, IsNumeral token
  notEmpty : ∀ value, admits value → toRow value ≠ []
  read_toRow : ∀ value, admits value → ∀ line, readRow ⟨line, toRow value⟩ = .ok value
  admits_of_read : ∀ row value, row.tokens ≠ [] → readRow row = .ok value → admits value
  toRow_of_read : ∀ row value, readRow row = .ok value →
    (∀ token ∈ row.tokens, IsNumeral token) → toRow value = row.tokens

namespace NumberFormat

variable {α : Type} {toRow : α → List Text} {readRow : Row → Except Flaw α} {admits : α → Prop}
  (format : NumberFormat toRow readRow admits) {values : List α} {bytes : Bytes}

include format

theorem parse_render (admitted : ∀ value ∈ values, admits value) :
    (readRows (Utf8.encode (values.flatMap fun value => renderRow (toRow value))) >>=
      (·.mapM readRow)) = .ok values :=
  mapM_readRows (fun value member => ⟨format.notEmpty value (admitted value member),
      fun token inRow => (format.numerals value token inRow).isToken⟩)
    fun value member => format.read_toRow value (admitted value member)

theorem admits_of_parse (read : (readRows bytes >>= (·.mapM readRow)) = .ok values) :
    ∀ value ∈ values, admits value := by
  intro value member
  obtain ⟨rows, rowsRead, valuesRead⟩ := bind_eq_ok.mp read
  obtain ⟨text, -, cut⟩ := bind_eq_ok.mp rowsRead
  obtain ⟨row, inRows, valueRead⟩ := (mem_of_mapM valuesRead value).mp member
  obtain ⟨-, -, filled⟩ := exists_line_of_rowsOfLines cut inRows
  exact format.admits_of_read row value filled valueRead

theorem isCanonical_render (admitted : ∀ value ∈ values, admits value) :
    IsCanonical (values.flatMap fun value => renderRow (toRow value)) := by
  refine ⟨values.map toRow, ?_, ?_⟩
  · intro row member
    obtain ⟨value, inValues, rfl⟩ := List.mem_map.mp member
    exact ⟨format.notEmpty value (admitted value inValues), format.numerals value⟩
  · simp only [renderRow_eq_intercalate, List.flatMap_map]

/-- What was read from a text in canonical form is written as that text. -/
theorem render_of_isCanonical {text : Text} (canonical : IsCanonical text)
    (read : (readRows (Utf8.encode text) >>= (·.mapM readRow)) = .ok values) :
    (values.flatMap fun value => renderRow (toRow value)) = text := by
  obtain ⟨rows, numerals, same⟩ := canonical
  simp only [← renderRow_eq_intercalate] at same
  have areRows : ∀ row ∈ rows, IsRow row := fun row member =>
    ⟨(numerals row member).1, fun token inRow => ((numerals row member).2 token inRow).isToken⟩
  rw [same, readRows_renderRow areRows, ok_bind] at read
  have written : values.map toRow = (numberRows 1 rows).map Row.tokens := by
    refine map_of_mapM read fun row member value valueRead => ?_
    refine format.toRow_of_read row value valueRead (numerals row.tokens ?_).2
    rw [← tokens_numberRows 1 rows]
    exact List.mem_map_of_mem member
  rw [tokens_numberRows] at written
  rw [same, ← written, List.flatMap_map]

/-- What is written of what was read is what was read exactly where that was in canonical form. -/
theorem render_eq_iff (read : (readRows bytes >>= (·.mapM readRow)) = .ok values) :
    Utf8.encode (values.flatMap fun value => renderRow (toRow value)) = bytes ↔
      ∃ text, bytes = Utf8.encode text ∧ IsCanonical text := by
  constructor
  · intro same
    exact ⟨_, same.symm, format.isCanonical_render (format.admits_of_parse read)⟩
  · rintro ⟨text, rfl, canonical⟩
    rw [format.render_of_isCanonical canonical read]

end NumberFormat

/-! ## Tokens written as they were read -/

/-- Numerals that are read one a column are written as they were read, as soon as each of them is. -/
theorem Row.map_of_columns {α : Type} {read : Nat → Text → Except Flaw α} {write : α → Text}
    {first : Nat} {tokens : List Text} {values : List α}
    (each : ∀ column token value, IsNumeral token → read column token = .ok value →
      write value = token)
    (numerals : ∀ token ∈ tokens, IsNumeral token)
    (success : columns read first tokens = .ok values) : values.map write = tokens := by
  induction tokens generalizing first values with
  | nil =>
      obtain rfl := Except.ok.inj success
      rfl
  | cons token tokens ih =>
      obtain ⟨value, head, success⟩ := bind_eq_ok.mp success
      obtain ⟨others, rest, same⟩ := bind_eq_ok.mp success
      obtain rfl := Except.ok.inj same
      obtain ⟨isNumeral, areNumerals⟩ := List.forall_mem_cons.mp numerals
      rw [List.map_cons, each first token value isNumeral head, ih areNumerals rest]

theorem Row.digits_of_node {row : Row} {limit : UInt16} {column : Nat} {token : Text}
    {node : NodeId} (numeral : IsNumeral token) (read : row.node limit column token = .ok node) :
    Decimal.digits node.toNat = token := by
  obtain ⟨value, tokenRead, read⟩ := bind_eq_ok.mp read
  dsimp only at read
  split at read
  · cases read
  · obtain rfl := Except.ok.inj read
    exact (numeral.plain.eq_digits_of_uint16? (Row.token_eq_ok.mp tokenRead)).symm

theorem EncodeMethod.id_of_ofId? {id : UInt8} {method : EncodeMethod}
    (found : ofId? id = some method) : method.id = id := by
  unfold ofId? at found
  split at found
  · rename_i isReEncode
    rw [← Option.some.inj found, isReEncode, EncodeMethod.id]
  · split at found
    · rename_i isParityMerge
      rw [← Option.some.inj found, isParityMerge, EncodeMethod.id]
    · cases found

theorem StripeGroup.digits_of_readMethod {row : Row} {column : Nat} {token : Text}
    {method : EncodeMethod} (numeral : IsNumeral token)
    (read : readMethod row column token = .ok method) :
    Decimal.digits method.id.toNat = token := by
  obtain ⟨id, tokenRead, read⟩ := bind_eq_ok.mp read
  split at read
  · rename_i found
    obtain rfl := Except.ok.inj read
    rw [EncodeMethod.id_of_ofId? found]
    exact (numeral.plain.eq_digits_of_uint8? (Row.token_eq_ok.mp tokenRead)).symm
  · cases read

/-! ## Placements and stripe groups -/

/-- Placements are a format of numbers: a number a node, at least one to a row. -/
theorem PlacementShape.numberFormat (shape : PlacementShape) :
    NumberFormat (fun nodes : List NodeId => nodes.map fun node => Decimal.digits node.toNat)
      (Placement.readRow shape) fun nodes => nodes ≠ [] ∧ shape.Admits nodes where
  numerals nodes token member := by
    obtain ⟨node, -, rfl⟩ := List.mem_map.mp member
    exact isNumeral_digits _
  notEmpty nodes admitted := by simpa using admitted.1
  read_toRow nodes admitted := Placement.readRow_digits admitted.2
  admits_of_read row nodes filled read := by
    refine ⟨?_, Placement.admits_of_readRow read⟩
    rintro rfl
    unfold Placement.readRow at read
    split at read
    · cases read
    · exact filled (List.length_eq_zero_iff.mp (Row.of_columns read).1.symm)
  toRow_of_read row nodes read numerals := by
    unfold Placement.readRow at read
    split at read
    · cases read
    · exact Row.map_of_columns (fun _ _ _ numeral => Row.digits_of_node numeral) numerals read

/-- A row that is read as a stripe group holds its stripes, its method and its nodes. -/
theorem StripeGroup.readRow_eq_ok {shape : StripeGroupShape} {row : Row} {group : StripeGroup}
    (read : readRow shape row = .ok group) :
    ∃ stripes method nodes, row.tokens = stripes ++ method :: nodes ∧
      stripes.length = shape.fanIn.toNat ∧ nodes.length = shape.width.toNat ∧
      Row.columns (row.token .contributingStripe Decimal.uint32?) 0 stripes
        = .ok group.contributing ∧
      readMethod row shape.fanIn.toNat method = .ok group.method ∧
      Row.columns (row.node shape.nodes) (shape.fanIn.toNat + 1) nodes = .ok group.nodes := by
  simp only [readRow] at read
  split at read
  · cases read
  · rename_i counted
    rw [Decidable.not_not, StripeGroupShape.fieldsPerRow] at counted
    split at read
    · cases read
    · rename_i method nodes cut
      obtain ⟨contributing, stripesRead, read⟩ := bind_eq_ok.mp read
      obtain ⟨way, methodRead, read⟩ := bind_eq_ok.mp read
      obtain ⟨places, nodesRead, same⟩ := bind_eq_ok.mp read
      obtain rfl := Except.ok.inj same
      have whole := List.take_append_drop shape.fanIn.toNat row.tokens
      have others := congrArg List.length cut
      rw [List.length_drop, List.length_cons] at others
      refine ⟨_, method, nodes, by rw [← cut, whole], ?_, by omega, stripesRead, methodRead,
        nodesRead⟩
      rw [List.length_take]
      omega

/-- Stripe groups are a format of numbers: the stripes, the method and the nodes in one row. -/
theorem StripeGroupShape.numberFormat (shape : StripeGroupShape) :
    NumberFormat StripeGroup.toTokens (StripeGroup.readRow shape) shape.Admits where
  numerals group token member := by
    simp only [StripeGroup.toTokens, List.mem_append, List.mem_cons, List.mem_map] at member
    rcases member with ⟨stripe, -, rfl⟩ | rfl | ⟨node, -, rfl⟩ <;> exact isNumeral_digits _
  notEmpty group _ := by simp [StripeGroup.toTokens]
  read_toRow group admitted := StripeGroup.readRow_toTokens admitted
  admits_of_read row group _ read := by
    obtain ⟨stripes, method, nodes, -, stripeCount, nodeCount, stripesRead, -, nodesRead⟩ :=
      StripeGroup.readRow_eq_ok read
    obtain ⟨nodesLength, each⟩ := Row.of_columns nodesRead
    refine ⟨(Row.of_columns stripesRead).1.trans stripeCount, nodesLength.trans nodeCount, ?_⟩
    intro node member
    obtain ⟨column, token, nodeRead⟩ := each node member
    exact Row.lt_of_node nodeRead
  toRow_of_read row group read numerals := by
    obtain ⟨stripes, method, nodes, parts, -, -, stripesRead, methodRead, nodesRead⟩ :=
      StripeGroup.readRow_eq_ok read
    rw [parts, List.forall_mem_append, List.forall_mem_cons] at numerals
    obtain ⟨stripeNumerals, methodNumeral, nodeNumerals⟩ := numerals
    rw [StripeGroup.toTokens, parts, StripeGroup.digits_of_readMethod methodNumeral methodRead,
      Row.map_of_columns (fun _ _ _ numeral => Row.digits_of_node numeral) nodeNumerals nodesRead,
      Row.map_of_columns (fun _ _ _ numeral tokenRead =>
        (numeral.plain.eq_digits_of_uint32? (Row.token_eq_ok.mp tokenRead)).symm)
        stripeNumerals stripesRead]

/-! ## Files -/

/-- Loading and writing a kind of file undo each other: a file with the text of an admitted value is
loaded as that value; what is loaded is written as a text that is loaded as the same, and as the
bytes of the file exactly where these were in canonical form. -/
structure RoundTrips {α : Type} (load : Path → Disk α) (render : α → Text) (admits : α → Prop) :
    Prop where
  load_render : ∀ value, admits value → ∀ (fs : FileSystem) path,
    fs.read path = .ok (Utf8.encode (render value)) → (load path).perform fs = (.ok value, fs)
  load_again : ∀ value (fs after : FileSystem) path,
    (load path).perform fs = (.ok value, after) → ∀ (other : FileSystem) copy,
    other.read copy = .ok (Utf8.encode (render value)) →
      (load copy).perform other = (.ok value, other)
  render_eq_iff : ∀ value (fs after : FileSystem) path bytes, fs.read path = .ok bytes →
    (load path).perform fs = (.ok value, after) →
      (Utf8.encode (render value) = bytes ↔ ∃ text, bytes = Utf8.encode text ∧ IsCanonical text)

/-- A format of numbers, a value a row, round-trips. -/
theorem NumberFormat.roundTrips {α : Type} {toRow : α → List Text}
    {readRow : Row → Except Flaw α} {admits : α → Prop}
    (format : NumberFormat toRow readRow admits) :
    RoundTrips (loadWith fun bytes => readRows bytes >>= (·.mapM readRow))
      (fun values => values.flatMap fun value => renderRow (toRow value))
      fun values => ∀ value ∈ values, admits value where
  load_render values admitted fs path content :=
    loadWith_eq_ok.mpr ⟨rfl, _, content, format.parse_render admitted⟩
  load_again values fs after path loaded other copy content := by
    obtain ⟨-, bytes, -, read⟩ := loadWith_eq_ok.mp loaded
    exact loadWith_eq_ok.mpr ⟨rfl, _, content, format.parse_render (format.admits_of_parse read)⟩
  render_eq_iff values fs after path bytes content loaded := by
    obtain ⟨-, held, heldContent, read⟩ := loadWith_eq_ok.mp loaded
    obtain rfl := Except.ok.inj (heldContent.symm.trans content)
    exact format.render_eq_iff read

/-- Placements and stripe groups round-trip: placements of rows that are not empty, whose width and
nodes are those that the reader is told, and stripe groups of as many stripes and nodes as it is
told. -/
theorem placements_and_groups_round_trip :
    (∀ shape : PlacementShape, RoundTrips (Placement.load shape) Placement.render
      fun placement => ∀ nodes ∈ placement, nodes ≠ [] ∧ shape.Admits nodes) ∧
    ∀ shape : StripeGroupShape, RoundTrips (StripeGroup.load shape) StripeGroup.render
      fun groups => ∀ group ∈ groups, shape.Admits group :=
  ⟨fun shape => shape.numberFormat.roundTrips, fun shape => shape.numberFormat.roundTrips⟩

/-- A placement with a sign, leading zeros and more than single spaces, and no line feed at its end. -/
def loosePlacement : FileSystem := ⟨[([[112]], .file (Bytes.ofString "+0  001\n1 2") false)], []⟩

/-- A loose placement is loaded, but something else is written of it: it is not in canonical form. -/
theorem placements_and_groups_round_trip_loose :
    (Placement.load ⟨2, 3⟩ (.ofString "p")).perform loosePlacement =
        (.ok [[0, 1], [1, 2]], loosePlacement) ∧
      ∀ text, Bytes.ofString "+0  001\n1 2" = Utf8.encode text → ¬IsCanonical text := by
  have content : loosePlacement.read (.ofString "p") = .ok (Bytes.ofString "+0  001\n1 2") := by
    decide +kernel
  have loaded : (Placement.load ⟨2, 3⟩ (.ofString "p")).perform loosePlacement =
      (.ok [[0, 1], [1, 2]], loosePlacement) := by
    refine loadWith_eq_ok.mpr ⟨rfl, _, content, ?_⟩
    rw [Placement.parse, readRows, readText, Bytes.ofString, Utf8.decode?_encode]
    rfl
  refine ⟨loaded, fun text same canonical => ?_⟩
  have written := ((placements_and_groups_round_trip.1 ⟨2, 3⟩).render_eq_iff _ _ _ _ _ content
    loaded).mpr ⟨text, same, canonical⟩
  exact absurd written (by decide +kernel)

end Restripe
