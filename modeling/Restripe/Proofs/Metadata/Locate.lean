import Mathlib.Data.List.Induction
import Restripe.Proofs.Metadata.Grammar
import Restripe.Proofs.Text.Line

/-!
# What is loaded, and where loading stops

A loader gives a value exactly where a file holds a text whose rows mean that value.  Of any other
file it reports the line of the first byte that belongs to no text, else the first blank line, else
the first line with which the rows so far mean nothing.  Every loader reads its rows one after
another by the rules of its format, and that is all that is used of it.
-/

namespace Restripe

open Outcome FileSystem

/-! ## Bytes that mean something -/

section

variable {α : Type} (means : List (List Text) → α → Prop)

/-- Bytes are those of a text without blank lines whose rows mean a value. -/
inductive Conveys : Bytes → α → Prop where
  | text {text : Text} {rows : List (List Text)} {value : α} (laidOut : LaidOut rows text)
      (filled : ∀ row ∈ rows, row ≠ []) (meaning : means rows value) :
      Conveys (Utf8.encode text) value

/-- The line that is at fault in bytes that mean nothing. -/
inductive FaultAt : Bytes → Nat → Prop where
  /-- The text before the first byte that belongs to none ends on it. -/
  | notText {front : Text} {rest : Bytes} (stray : Utf8.Stray rest) :
      FaultAt (Utf8.encode front ++ rest) (front.count '\n' + 1)
  /-- It is the first blank line of a text. -/
  | blankLine {text : Text} {earlier later : List (List Text)}
      (laidOut : LaidOut (earlier ++ [] :: later) text) (filled : ∀ row ∈ earlier, row ≠ []) :
      FaultAt (Utf8.encode text) (earlier.length + 1)
  /-- No line of the text is blank, and its row is the first with which the rows so far mean nothing. -/
  | row {text : Text} {earlier later : List (List Text)} {row : List Text} {value : α}
      (laidOut : LaidOut (earlier ++ row :: later) text)
      (filled : ∀ other ∈ earlier ++ row :: later, other ≠ []) (meaning : means earlier value)
      (meaningless : ∀ other, ¬means (earlier ++ [row]) other) :
      FaultAt (Utf8.encode text) (earlier.length + 1)

end

/-- Loading a readable file gives a value exactly where its bytes mean that value, and fails on a line
exactly where that is the line at fault.  One of the two is the case. -/
structure Locates {α : Type} (load : Path → Disk α) (means : List (List Text) → α → Prop) :
    Prop where
  accepts : ∀ (fs : FileSystem) path bytes, fs.read path = .ok bytes → ∀ value,
    (load path).perform fs = (.ok value, fs) ↔ Conveys means bytes value
  rejects : ∀ (fs : FileSystem) path bytes, fs.read path = .ok bytes → ∀ line,
    (∃ cause, (load path).perform fs = (.error (.parse path line cause), fs)) ↔
      FaultAt means bytes line
  decides : ∀ bytes, (∃ value, Conveys means bytes value) ∨ ∃ line, FaultAt means bytes line

/-! ## Rows of bytes -/

/-- The rows of bytes are those that the text in them is laid out in, as long as no line is blank. -/
theorem readRows_eq_ok {bytes : Bytes} {numbered : List Row} :
    readRows bytes = .ok numbered ↔ ∃ text rows, bytes = Utf8.encode text ∧ LaidOut rows text ∧
      (∀ row ∈ rows, row ≠ []) ∧ numberRows 1 rows = numbered := by
  simp only [readRows, bind_eq_ok, readText_eq_ok, rowsOfLines_eq_ok, laidOut_iff]
  constructor
  · rintro ⟨text, isText, filled, same⟩
    exact ⟨text, _, isText, rfl, List.forall_mem_map.mpr filled, same⟩
  · rintro ⟨text, _, isText, rfl, filled, same⟩
    exact ⟨text, isText, fun line member => filled _ (List.mem_map_of_mem member), same⟩

/-- Bytes have no rows where they are no text, or else at the first blank line. -/
theorem readRows_eq_error {bytes : Bytes} {flaw : Flaw} :
    readRows bytes = .error flaw ↔
      (∃ front rest, bytes = Utf8.encode front ++ rest ∧ Utf8.Stray rest ∧
        ⟨front.count '\n' + 1, .notText⟩ = flaw) ∨
      ∃ text earlier later, bytes = Utf8.encode text ∧ LaidOut (earlier ++ [] :: later) text ∧
        (∀ row ∈ earlier, row ≠ []) ∧ ⟨earlier.length + 1, .blankLine⟩ = flaw := by
  simp only [readRows, bind_eq_error, readText_eq_error, readText_eq_ok, rowsOfLines_eq_error,
    laidOut_iff, Nat.add_comm 1]
  constructor
  · rintro (notText | ⟨text, isText, earlier, later, blank⟩)
    · exact .inl notText
    · exact .inr ⟨text, earlier, later, isText, blank⟩
  · rintro (notText | ⟨text, earlier, later, isText, blank⟩)
    · exact .inl notText
    · exact .inr ⟨text, isText, earlier, later, blank⟩

/-! ## Reading row after row -/

/-- Rows are read by the rules of their format, one after another: the first row that cannot be read
after the others ends it, and is reported under its own number. -/
structure Obeys {α : Type} (read : List Row → Except Flaw α)
    (means : List (List Text) → α → Prop) : Prop where
  begins : ∃ value, read [] = .ok value
  reads : ∀ rows value, read (numberRows 1 rows) = .ok value ↔ means rows value
  ends : ∀ earlier later flaw, read earlier = .error flaw →
    read (earlier ++ later) = .error flaw
  blames : ∀ earlier row value flaw, read earlier = .ok value →
    read (earlier ++ [row]) = .error flaw → flaw.line = row.line

namespace Obeys

variable {α : Type} {read : List Row → Except Flaw α} {means : List (List Text) → α → Prop}
  (obeys : Obeys read means)

include obeys

/-- Where rows cannot be read, there is a first one with which those so far mean nothing, and that one
is reported. -/
theorem exists_first {rows : List (List Text)} {flaw : Flaw}
    (failed : read (numberRows 1 rows) = .error flaw) : ∃ earlier row later value,
      rows = earlier ++ row :: later ∧ means earlier value ∧
        (∀ other, ¬means (earlier ++ [row]) other) ∧ flaw.line = earlier.length + 1 := by
  induction rows using List.reverseRecOn generalizing flaw with
  | nil =>
      obtain ⟨value, success⟩ := obeys.begins
      cases success.symm.trans failed
  | append_singleton rows row ih =>
      cases before : read (numberRows 1 rows) with
      | ok value =>
          refine ⟨rows, row, [], value, rfl, (obeys.reads rows value).mp before, ?_, ?_⟩
          · intro other meaning
            cases ((obeys.reads _ other).mpr meaning).symm.trans failed
          · rw [numberRows_concat] at failed
            rw [obeys.blames _ _ value flaw before failed, Nat.add_comm]
      | error early =>
          have same := obeys.ends _ [⟨1 + rows.length, row⟩] early before
          rw [← numberRows_concat] at same
          obtain rfl := Except.error.inj (same.symm.trans failed)
          obtain ⟨earlier, first, later, value, split, found⟩ := ih before
          exact ⟨earlier, first, later ++ [row], value, by rw [split]; simp, found⟩

theorem exists_error {earlier later : List (List Text)} {row : List Text} {value : α}
    (meaning : means earlier value) (meaningless : ∀ other, ¬means (earlier ++ [row]) other) :
    ∃ cause, read (numberRows 1 (earlier ++ row :: later)) =
      .error ⟨earlier.length + 1, cause⟩ := by
  have before := (obeys.reads earlier value).mpr meaning
  cases failed : read (numberRows 1 (earlier ++ [row])) with
  | ok other => exact absurd ((obeys.reads _ other).mp failed) (meaningless other)
  | error flaw =>
      rw [numberRows_concat] at failed
      have onLine : flaw.line = earlier.length + 1 := by
        rw [obeys.blames _ _ value flaw before failed, Nat.add_comm]
      refine ⟨flaw.cause, ?_⟩
      rw [numberRows_append, List.append_cons, obeys.ends _ _ flaw failed, ← onLine]

theorem bind_eq_ok_iff {bytes : Bytes} {value : α} :
    readRows bytes >>= read = .ok value ↔ Conveys means bytes value := by
  simp only [bind_eq_ok, readRows_eq_ok]
  constructor
  · rintro ⟨_, ⟨text, rows, rfl, laidOut, filled, rfl⟩, success⟩
    exact .text laidOut filled ((obeys.reads rows value).mp success)
  · rintro ⟨laidOut, filled, meaning⟩
    exact ⟨_, ⟨_, _, rfl, laidOut, filled, rfl⟩, (obeys.reads _ value).mpr meaning⟩

theorem bind_eq_error_iff {bytes : Bytes} {line : Nat} :
    (∃ cause, readRows bytes >>= read = .error ⟨line, cause⟩) ↔ FaultAt means bytes line := by
  constructor
  · rintro ⟨cause, failed⟩
    rcases bind_eq_error.mp failed with noRows | ⟨_, hasRows, failed⟩
    · rcases readRows_eq_error.mp noRows with notText | blank
      · obtain ⟨front, rest, rfl, stray, same⟩ := notText
        obtain ⟨rfl, -⟩ := Flaw.mk.inj same
        exact .notText stray
      · obtain ⟨text, earlier, later, rfl, laidOut, filled, same⟩ := blank
        obtain ⟨rfl, -⟩ := Flaw.mk.inj same
        exact .blankLine laidOut filled
    · obtain ⟨text, rows, rfl, laidOut, filled, rfl⟩ := readRows_eq_ok.mp hasRows
      obtain ⟨earlier, row, later, value, rfl, meaning, meaningless, rfl⟩ :=
        obeys.exists_first failed
      exact .row laidOut filled meaning meaningless
  · intro fault
    cases fault with
    | notText stray =>
        exact ⟨.notText, by rw [readRows_eq_error.mpr (.inl ⟨_, _, rfl, stray, rfl⟩), error_bind]⟩
    | blankLine laidOut filled =>
        refine ⟨.blankLine, ?_⟩
        rw [readRows_eq_error.mpr (.inr ⟨_, _, _, rfl, laidOut, filled, rfl⟩), error_bind]
    | row laidOut filled meaning meaningless =>
        rw [readRows_eq_ok.mpr ⟨_, _, rfl, laidOut, filled, rfl⟩]
        exact obeys.exists_error meaning meaningless

/-- A file whose rows are read by the rules of their format is loaded by these rules. -/
theorem locates : Locates (loadWith fun bytes => readRows bytes >>= read) means where
  accepts fs path bytes content value := by
    rw [perform_loadWith content, ← obeys.bind_eq_ok_iff]
    cases readRows bytes >>= read <;> simp [Except.mapError]
  rejects fs path bytes content line := by
    rw [perform_loadWith content, ← obeys.bind_eq_error_iff]
    cases readRows bytes >>= read with
    | ok value => simp [Except.mapError]
    | error flaw =>
        obtain ⟨number, cause⟩ := flaw
        simp [Except.mapError]
  decides bytes := by
    cases outcome : readRows bytes >>= read with
    | ok value => exact .inl ⟨value, obeys.bind_eq_ok_iff.mp outcome⟩
    | error flaw => exact .inr ⟨flaw.line, obeys.bind_eq_error_iff.mp ⟨flaw.cause, outcome⟩⟩

end Obeys

/-! ## The formats -/

/-- Where every row means a value of its own, all of them are read by their rules as soon as each
is. -/
theorem obeys_mapM {α : Type} {readRow : Row → Except Flaw α} {means : List Text → α → Prop}
    (reads : ∀ row value, readRow row = .ok value ↔ means row.tokens value)
    (blames : ∀ row : Row, row.Blames (readRow row)) :
    Obeys (List.mapM readRow) (List.Forall₂ means) where
  begins := ⟨[], rfl⟩
  reads rows values := by
    simp only [mapM_eq_ok, reads]
    rw [← List.forall₂_map_left_iff, tokens_numberRows]
  ends earlier later flaw failed := by rw [List.mapM_append, failed, error_bind]
  blames earlier row values flaw success failed := by
    rw [List.mapM_append, success, ok_bind] at failed
    rcases bind_eq_error.mp failed with last | ⟨_, _, impossible⟩
    · obtain ⟨other, member, fails⟩ := exists_of_mapM_error last
      obtain rfl := List.mem_singleton.mp member
      exact blames other flaw fails
    · cases impossible

namespace ProvenanceTable

/-- The rows of a block mapping are read by its rules. -/
theorem obeys_readInto :
    Obeys (fun rows => rows.foldlM readInto empty) ProvenanceTable.Means where
  begins := ⟨empty, rfl⟩
  reads rows table := by
    simp only [foldlM_readInto_eq_ok, readEntry_iff, foldlM_insert_eq_ok, Means]
    simp only [← List.forall₂_map_left_iff, tokens_numberRows]
  ends earlier later flaw failed := by rw [List.foldlM_append, failed, error_bind]
  blames earlier row table flaw success failed := by
    rw [List.foldlM_append, success, ok_bind, List.foldlM_cons] at failed
    rcases bind_eq_error.mp failed with last | ⟨_, _, impossible⟩
    · exact blames_readInto table row flaw last
    · cases impossible

end ProvenanceTable

/-- All loaders follow the rules of their formats, and report the line at fault of any other file. -/
theorem loaders_locate :
    (∀ shape : PlacementShape, Locates (Placement.load shape) (List.Forall₂ shape.Means)) ∧
    (∀ shape : StripeGroupShape, Locates (StripeGroup.load shape) (List.Forall₂ shape.Means)) ∧
    Locates ProvenanceTable.load ProvenanceTable.Means := by
  refine ⟨?_, ?_, ProvenanceTable.obeys_readInto.locates⟩
  · intro shape
    have obeys := obeys_mapM (fun _ _ => Placement.readRow_eq_ok) (Placement.blames_readRow shape)
    exact obeys.locates
  · intro shape
    have obeys := obeys_mapM (fun _ _ => StripeGroup.readRow_iff) (StripeGroup.blames_readRow shape)
    exact obeys.locates

/-- A block mapping whose second row has the key of the first, spelled in another way. -/
def repeatedKey : FileSystem :=
  ⟨[([[109]], .file (Bytes.ofString "0 1 2 /a\n+0 01 3 /b\n") false)], []⟩

/-- A repeated key is the fault of the row that repeats it. -/
theorem loaders_locate_repeatedKey :
    (ProvenanceTable.load (.ofString "m")).perform repeatedKey =
        (.error (.parse (.ofString "m") 2 (.duplicateEntry ⟨0, 1⟩)), repeatedKey) ∧
      FaultAt ProvenanceTable.Means (Bytes.ofString "0 1 2 /a\n+0 01 3 /b\n") 2 := by
  have content : repeatedKey.read (.ofString "m") =
      .ok (Bytes.ofString "0 1 2 /a\n+0 01 3 /b\n") := by
    decide +kernel
  have failed : (ProvenanceTable.load (.ofString "m")).perform repeatedKey =
      (.error (.parse (.ofString "m") 2 (.duplicateEntry ⟨0, 1⟩)), repeatedKey) := by
    rw [ProvenanceTable.load, perform_loadWith content, Bytes.ofString,
      ProvenanceTable.parse_encode]
    rfl
  exact ⟨failed, (loaders_locate.2.2.rejects _ _ _ content 2).mp ⟨_, failed⟩⟩

/-- A placement of one blank line. -/
def blankPlacement : FileSystem := ⟨[([[112]], .file (Bytes.ofString "\n") false)], []⟩

/-- Where stripes have no blocks, a blank line has as many nodes as a row is to have, but it is
reported. -/
theorem blank_line_rejected :
    LaidOut [[]] "\n".toList ∧ List.Forall₂ (PlacementShape.Means ⟨0, 1⟩) [[]] [[]] ∧
      blankPlacement.read (.ofString "p") = .ok (Bytes.ofString "\n") ∧
      (Placement.load ⟨0, 1⟩ (.ofString "p")).perform blankPlacement =
        (.error (.parse (.ofString "p") 1 .blankLine), blankPlacement) := by
  have content : blankPlacement.read (.ofString "p") = .ok (Bytes.ofString "\n") := by
    decide +kernel
  refine ⟨laidOut_iff.mpr (by decide), .cons ⟨rfl, .nil⟩ .nil, content, ?_⟩
  rw [Placement.load, perform_loadWith content, Placement.parse, readRows, readText,
    Bytes.ofString, Utf8.decode?_encode]
  rfl

end Restripe
