import Mathlib.Data.List.Perm.Basic
import Restripe.Proofs.Metadata.Locate

/-!
# Block mappings in another layout

A block mapping may be laid out in many ways: its rows in any order, with any separators between and
around their tokens, with any ends of lines, and with its numbers spelled in any way.  All of them
are loaded as the same table, or none of them is, and iterating over that table or writing it lists
the entries in the order of their keys.
-/

namespace Restripe

open Outcome FileSystem

/-! ## Spellings -/

namespace Decimal

/-- Tokens are numerals of the same number, or neither of them is a numeral. -/
def SameNumber (left right : Text) : Prop :=
  ∀ value, Denotes left value ↔ Denotes right value

theorem SameNumber.refl (token : Text) : SameNumber token token := fun _ => Iff.rfl

theorem SameNumber.symm {left right : Text} (same : SameNumber left right) :
    SameNumber right left := fun value => (same value).symm

theorem SameNumber.trans {left middle right : Text} (first : SameNumber left middle)
    (second : SameNumber middle right) : SameNumber left right := fun value =>
  (first value).trans (second value)

variable {digits : Text} (notEmpty : digits ≠ []) (areDigits : ∀ char ∈ digits, char.isDigit)

include notEmpty areDigits

theorem sameNumber_plus : SameNumber digits ('+' :: digits) := by
  intro value
  rw [denotes_digits notEmpty areDigits, denotes_plus notEmpty areDigits]

theorem sameNumber_zero : SameNumber digits ('0' :: digits) := by
  intro value
  have zero : Nat.ofDigitChars 10 ('0' :: digits) 0 = Nat.ofDigitChars 10 digits 0 := by
    rw [Nat.ofDigitChars_cons]
    rfl
  rw [denotes_digits notEmpty areDigits, denotes_digits (List.cons_ne_nil '0' digits)
    (List.forall_mem_cons.mpr ⟨rfl, areDigits⟩), zero]

end Decimal

namespace ProvenanceTable

/-- Tokens mean the same location, or neither of them means one. -/
def SameLocation (left right : Text) : Prop :=
  ∀ location, MeansLocation left location ↔ MeansLocation right location

theorem SameLocation.refl (token : Text) : SameLocation token token := fun _ => Iff.rfl

theorem meansLocation_source_iff {stripe block : Text} {location : Location} :
    MeansLocation (pendingMark ++ (stripe ++ ':' :: block)) location ↔ ∃ key : BlockKey,
      Decimal.Denotes stripe key.stripe.toNat ∧ Decimal.Denotes block key.block.toNat ∧
        location = .pending (some key) := by
  constructor
  · intro means
    generalize whole : pendingMark ++ (stripe ++ ':' :: block) = token at means
    cases means with
    | stored unmarked => exact absurd ⟨_, whole⟩ unmarked
    | new => exact absurd (List.append_cancel_left whole) (append_colon_ne_newMark stripe block)
    | @source otherStripe otherBlock key isStripe isBlock =>
        have same := List.append_cancel_left whole
        obtain ⟨rfl, -, rfl⟩ := (List.append_cons_inj_of_notMem
          (isStripe.notMem (by decide) (by decide)) (isBlock.notMem (by decide) (by decide))).mp
            same.symm
        exact ⟨key, isStripe, isBlock, rfl⟩
  · rintro ⟨key, isStripe, isBlock, rfl⟩
    exact .source isStripe isBlock

/-- The numbers of a pending source can be spelled in any way. -/
theorem sameLocation_source {stripe block otherStripe otherBlock : Text}
    (stripes : Decimal.SameNumber stripe otherStripe)
    (blocks : Decimal.SameNumber block otherBlock) :
    SameLocation (pendingMark ++ (stripe ++ ':' :: block))
      (pendingMark ++ (otherStripe ++ ':' :: otherBlock)) := by
  intro location
  simp only [meansLocation_source_iff, stripes _, blocks _]

/-- Rows mean the same entry, or neither of them means one. -/
def SameMeaning (left right : List Text) : Prop :=
  ∀ entry, MeansEntry left entry ↔ MeansEntry right entry

theorem meansEntry_iff {stripe block node location : Text} {entry : Entry} :
    MeansEntry [stripe, block, node, location] entry ↔
      Decimal.Denotes stripe entry.key.stripe.toNat ∧
      Decimal.Denotes block entry.key.block.toNat ∧ Decimal.Denotes node entry.node.toNat ∧
      MeansLocation location entry.location := by
  constructor
  · rintro ⟨isStripe, isBlock, isNode, isLocation⟩
    exact ⟨isStripe, isBlock, isNode, isLocation⟩
  · rintro ⟨isStripe, isBlock, isNode, isLocation⟩
    exact .row isStripe isBlock isNode isLocation

/-- The numbers and the location of a row can be spelled in any way. -/
theorem sameMeaning_row {stripe block node location otherStripe otherBlock otherNode
    otherLocation : Text} (stripes : Decimal.SameNumber stripe otherStripe)
    (blocks : Decimal.SameNumber block otherBlock) (nodes : Decimal.SameNumber node otherNode)
    (locations : SameLocation location otherLocation) :
    SameMeaning [stripe, block, node, location]
      [otherStripe, otherBlock, otherNode, otherLocation] := by
  intro entry
  rw [meansEntry_iff, meansEntry_iff, stripes _, blocks _, nodes _, locations _]

/-! ## Rows in another order -/

/-- The rows of one layout, in some order, mean the same as those of the other. -/
def Relaid (left right : List (List Text)) : Prop :=
  ∃ shuffled, List.Forall₂ SameMeaning left shuffled ∧ shuffled.Perm right

theorem Relaid.symm {left right : List (List Text)} (relaid : Relaid left right) :
    Relaid right left := by
  obtain ⟨shuffled, same, order⟩ := relaid
  have flipped : List.Forall₂ SameMeaning shuffled left :=
    same.flip.imp fun _ _ meaning entry => (meaning entry).symm
  exact List.perm_comp_forall₂ order.symm flipped

/-- Rows of another layout mean the same table. -/
theorem Means.of_relaid {left right : List (List Text)} {table : ProvenanceTable}
    (relaid : Relaid left right) (means : Means left table) : Means right table := by
  obtain ⟨shuffled, same, order⟩ := relaid
  obtain ⟨entries, meanEntries, distinct, isTable⟩ := means
  have shuffledMean : List.Forall₂ MeansEntry shuffled entries := by
    clear order distinct isTable
    induction same generalizing entries with
    | nil =>
        cases meanEntries
        exact .nil
    | cons head _ ih =>
        cases meanEntries with
        | cons first others => exact .cons ((head _).mp first) (ih _ others)
  obtain ⟨reordered, rightMean, orderedEntries⟩ := List.perm_comp_forall₂ order.symm shuffledMean
  exact ⟨reordered, rightMean, ((orderedEntries.map Entry.key).nodup_iff).mpr distinct,
    orderedEntries.trans isTable⟩

/-- Two texts that are laid out in such rows mean the same table. -/
theorem conveys_iff {rows : List (List Text)} {text : Text} (laidOut : LaidOut rows text)
    {table : ProvenanceTable} : Conveys Means (Utf8.encode text) table ↔ Means rows table := by
  constructor
  · intro conveys
    generalize isText : Utf8.encode text = bytes at conveys
    cases conveys with
    | text otherLaid _ means =>
        obtain rfl := Utf8.encode_injective isText
        rwa [← laidOut_iff.mp laidOut, laidOut_iff.mp otherLaid]
  · intro means
    refine .text laidOut ?_ means
    obtain ⟨entries, meanEntries, -⟩ := means
    rintro row member rfl
    obtain ⟨entry, -, meansNothing⟩ := exists_of_forall₂ meanEntries member
    cases meansNothing

/-! ## What is listed -/

/-- A table lists what rows mean: it has their entries in the order of the keys.  It can be written
where no path of it holds a blank, and what is written has a row for each entry, in that order. -/
structure Lists (table : ProvenanceTable) (rows : List (List Text)) : Prop where
  means : Means rows table
  ascending : Entry.Ascending table.entries
  exists_render : (∃ text, table.render = .ok text) ↔
    ∀ entry ∈ table.entries, ∀ path, entry.location = .stored path →
      ∀ token, path.bytes = Utf8.encode token → ∀ char ∈ token, isBlank char = false
  rendered : ∀ text, table.render = .ok text →
    ∃ written, LaidOut written text ∧ List.Forall₂ MeansEntry written table.entries

theorem Means.lists {rows : List (List Text)} {text : Text} {table : ProvenanceTable}
    (means : Means rows table) (laidOut : LaidOut rows text) : table.Lists rows where
  means := means
  ascending := table.ascending
  exists_render := by
    apply exists_render_of_tokens
    intro entry member path stored
    obtain ⟨entries, meanEntries, -, isTable⟩ := means
    obtain ⟨row, inRows, meansEntry⟩ :=
      exists_of_forall₂ meanEntries.flip (isTable.mem_iff.mpr member)
    cases meansEntry with
    | @row stripe block node location _ isStripe isBlock isNode isLocation =>
        rw [stored] at isLocation
        cases isLocation with
        | stored unmarked =>
            exact ⟨location, rfl, (laidOut.isToken inRows (by simp)).notEmpty, unmarked⟩
  rendered written rendered := by
    obtain ⟨writtenRows, writes, rfl⟩ := render_eq_ok.mp rendered
    refine ⟨writtenRows, laidOut_iff.mpr (tokens_lines_renderRow (isRow_of_writes writes)), ?_⟩
    exact writes.flip.imp fun row entry isWritten =>
      readEntry_iff.mp (Writes.readEntry isWritten 0)

/-- A block mapping means the same however it is laid out: of two layouts of the same rows both are
loaded, as the table that lists their entries, or the rows mean no table and none of them is. -/
theorem load_relaid {left right : Text} {leftRows rightRows : List (List Text)}
    (leftLaid : LaidOut leftRows left) (rightLaid : LaidOut rightRows right)
    (relaid : Relaid leftRows rightRows) {fs other : FileSystem} {path copy : Path}
    (content : fs.read path = .ok (Utf8.encode left))
    (copied : other.read copy = .ok (Utf8.encode right)) :
    (∃ table, (load path).perform fs = (.ok table, fs) ∧
      (load copy).perform other = (.ok table, other) ∧ table.Lists leftRows) ∨
    (∀ table, ¬Means leftRows table) ∧
      (∃ line cause, (load path).perform fs = (.error (.parse path line cause), fs)) ∧
      ∃ line cause, (load copy).perform other = (.error (.parse copy line cause), other) := by
  have locates := obeys_readInto.locates
  have loads (table : ProvenanceTable) :
      (load path).perform fs = (.ok table, fs) ↔ Means leftRows table :=
    (locates.accepts fs path _ content table).trans (conveys_iff leftLaid)
  have loadsCopy (table : ProvenanceTable) :
      (load copy).perform other = (.ok table, other) ↔ Means rightRows table :=
    (locates.accepts other copy _ copied table).trans (conveys_iff rightLaid)
  rcases locates.decides (Utf8.encode left) with ⟨table, conveys⟩ | ⟨line, fault⟩
  · have means := (conveys_iff leftLaid).mp conveys
    exact .inl ⟨table, (loads table).mpr means, (loadsCopy table).mpr (means.of_relaid relaid),
      means.lists leftLaid⟩
  · obtain ⟨cause, failed⟩ := (locates.rejects fs path _ content line).mpr fault
    have meaningless : ∀ table, ¬Means leftRows table := by
      intro table means
      cases (Prod.mk.inj (((loads table).mpr means).symm.trans failed)).1
    refine .inr ⟨meaningless, ⟨line, cause, failed⟩, ?_⟩
    rcases locates.decides (Utf8.encode right) with ⟨table, conveys⟩ | ⟨otherLine, otherFault⟩
    · have means := ((conveys_iff rightLaid).mp conveys).of_relaid relaid.symm
      exact absurd means (meaningless table)
    · exact ⟨otherLine, (locates.rejects other copy _ copied otherLine).mpr otherFault⟩

/-- A block mapping in two layouts, the second of them with its rows the other way round. -/
def twoLayouts : FileSystem :=
  ⟨[([[109]], .file (Bytes.ofString "0 0 1 /a\n+1 02 3 pending:+4:005\r\n") false),
    ([[110]], .file (Bytes.ofString "1 2 3 pending:4:5\n 00\t+0  1 /a") false)], []⟩

/-- Both layouts are loaded as the table that lists their entries. -/
theorem load_relaid_twoLayouts :
    ∃ table, (load (.ofString "m")).perform twoLayouts = (.ok table, twoLayouts) ∧
      (load (.ofString "n")).perform twoLayouts = (.ok table, twoLayouts) ∧
      table.Lists [[['0'], ['0'], ['1'], ['/', 'a']],
        [['+', '1'], ['0', '2'], ['3'], pendingMark ++ ['+', '4', ':', '0', '0', '5']]] := by
  have content : twoLayouts.read (.ofString "m") =
      .ok (Bytes.ofString "0 0 1 /a\n+1 02 3 pending:+4:005\r\n") := by
    decide +kernel
  have copied : twoLayouts.read (.ofString "n") =
      .ok (Bytes.ofString "1 2 3 pending:4:5\n 00\t+0  1 /a") := by
    decide +kernel
  have source : SameLocation (pendingMark ++ (['+', '4'] ++ ':' :: ['0', '0', '5']))
      (pendingMark ++ (['4'] ++ ':' :: ['5'])) := by
    apply sameLocation_source
    · exact (Decimal.sameNumber_plus (by decide) (by simp)).symm
    · exact ((Decimal.sameNumber_zero (by decide) (by simp)).trans
        (Decimal.sameNumber_zero (by decide) (by simp))).symm
  have first : SameMeaning [['0'], ['0'], ['1'], ['/', 'a']]
      [['0', '0'], ['+', '0'], ['1'], ['/', 'a']] := by
    apply sameMeaning_row
    · exact Decimal.sameNumber_zero (by decide) (by simp)
    · exact Decimal.sameNumber_plus (by decide) (by simp)
    · exact .refl _
    · exact .refl _
  have second : SameMeaning
      [['+', '1'], ['0', '2'], ['3'], pendingMark ++ ['+', '4', ':', '0', '0', '5']]
      [['1'], ['2'], ['3'], pendingMark ++ ['4', ':', '5']] := by
    apply sameMeaning_row
    · exact (Decimal.sameNumber_plus (by decide) (by simp)).symm
    · exact (Decimal.sameNumber_zero (by decide) (by simp)).symm
    · exact .refl _
    · exact source
  have relaid : Relaid _ _ := ⟨_, .cons first (.cons second .nil), .swap _ _ []⟩
  rcases load_relaid (laidOut_iff.mpr (by decide)) (laidOut_iff.mpr (by decide)) relaid content
    copied with both | ⟨-, ⟨line, cause, failed⟩, -⟩
  · exact both
  · rw [load, perform_loadWith content, Bytes.ofString, parse_encode] at failed
    cases (Prod.mk.inj failed).1

end ProvenanceTable

end Restripe
