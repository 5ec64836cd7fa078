import Restripe.Metadata.Row
import Restripe.Proofs.Outcome
import Restripe.Proofs.Text.Line
import Restripe.Proofs.Text.Numeral
import Restripe.Proofs.Text.Utf8

/-!
# Rows written and read

Rows of tokens that are written one after another are read back as these rows, numbered from one
on.  So a metadata format is inverted by its reader as soon as each of its rows is.
-/

namespace Restripe

open Outcome

variable {α : Type}

theorem isBlank_of_isDigit {char : Char} (digit : char.isDigit) : isBlank char = false := by
  simp only [Char.isDigit, Bool.and_eq_true, decide_eq_true_eq] at digit
  have lower : '0'.toNat ≤ char.toNat := digit.1
  have upper : char.toNat ≤ '9'.toNat := digit.2
  simp only [Char.reduceToNat] at lower upper
  simp only [isBlank, Bool.or_eq_false_iff, Bool.and_eq_false_iff, decide_eq_false_iff_not,
    beq_eq_false_iff_ne]
  omega

theorem isSeparator_of_isDigit {char : Char} (digit : char.isDigit) :
    isSeparator char = false := by
  cases separates : isSeparator char with
  | false => rfl
  | true =>
      have blank := isBlank_of_isSeparator separates
      rw [isBlank_of_isDigit digit] at blank
      cases blank

theorem isToken_digits (value : Nat) : IsToken (Decimal.digits value) :=
  ⟨Decimal.digits_ne_nil value, fun _ member =>
    isSeparator_of_isDigit (Decimal.isDigit_of_mem_digits member)⟩

theorem Row.token_eq_ok {row : Row} {field : Field} {read? : Text → Option α} {column : Nat}
    {token : Text} {value : α} :
    row.token field read? column token = .ok value ↔ read? token = some value := by
  unfold Row.token
  cases read? token <;> simp

/-- Tokens that are written one a column are read back, as soon as each of them is. -/
theorem Row.columns_map {read : Nat → Text → Except Flaw α} {write : α → Text} {values : List α}
    (each : ∀ value ∈ values, ∀ column, read column (write value) = .ok value) (first : Nat) :
    Row.columns read first (values.map write) = .ok values := by
  induction values generalizing first with
  | nil => rfl
  | cons value values ih =>
      have rest := ih (fun other member => each other (List.mem_cons_of_mem value member))
        (first + 1)
      rw [List.map_cons, Row.columns, each value List.mem_cons_self, ok_bind, rest]
      rfl

/-- A row that can be written: it holds a token, and nothing but tokens. -/
structure IsRow (row : List Text) : Prop where
  notEmpty : row ≠ []
  tokens : ∀ token ∈ row, IsToken token

theorem renderRow_eq_line (row : List Text) (areTokens : ∀ token ∈ row, IsToken token) :
    ∃ line, renderRow row = line ++ ['\n'] ∧ tokens line = row ∧
      ∀ char ∈ line, isSeparator char = true → char = ' ' := by
  induction row using renderRow.induct with
  | case1 => exact ⟨[], rfl, tokens_nil, by simp⟩
  | case2 token =>
      have isToken := areTokens token List.mem_cons_self
      refine ⟨token, rfl, tokens_of_isToken isToken, ?_⟩
      intro char member separates
      rw [isToken.whole char member] at separates
      cases separates
  | case3 token others several ih =>
      have isToken := areTokens token List.mem_cons_self
      obtain ⟨line, rendered, cut, parted⟩ :=
        ih fun other member => areTokens other (List.mem_cons_of_mem token member)
      refine ⟨token ++ ' ' :: line, ?_, ?_, ?_⟩
      · rw [renderRow, rendered]
        · simp
        · exact several
      · rw [tokens_append_separator isToken rfl, cut]
      · intro char member separates
        rcases List.mem_append.mp member with inToken | inRest
        · rw [isToken.whole char inToken] at separates
          cases separates
        · rcases List.mem_cons.mp inRest with same | inLine
          · exact same
          · exact parted char inLine separates

/-- The lines of written rows hold these rows. -/
theorem tokens_lines_renderRow {rows : List (List Text)} (areRows : ∀ row ∈ rows, IsRow row) :
    (lines (rows.flatMap renderRow)).map tokens = rows := by
  induction rows with
  | nil => simp
  | cons row rows ih =>
      obtain ⟨line, rendered, cut, parted⟩ :=
        renderRow_eq_line row (areRows row List.mem_cons_self).tokens
      have within : '\n' ∉ line := fun member => absurd (parted _ member rfl) (by decide)
      have noReturn : '\r' ∉ line := fun member => absurd (parted _ member rfl) (by decide)
      have others := ih fun other member => areRows other (List.mem_cons_of_mem row member)
      have split : (row :: rows).flatMap renderRow = line ++ '\n' :: rows.flatMap renderRow := by
        simp [rendered]
      rw [split, lines_append within, dropCarriageReturn_of_not_mem noReturn, List.map_cons, cut,
        others]

def numberRows (first : Nat) (rows : List (List Text)) : List Row :=
  (rows.zipIdx first).map fun (tokens, line) => ⟨line, tokens⟩

theorem tokens_numberRows (first : Nat) (rows : List (List Text)) :
    (numberRows first rows).map Row.tokens = rows := by
  simp [numberRows, List.map_map, Function.comp_def]

/-- What holds between each of these rows and its value, whatever its number, holds between the
numbered rows and the values. -/
theorem forall₂_numberRows {relates : Row → α → Prop} {rows : List (List Text)} {values : List α}
    {first : Nat}
    (each : List.Forall₂ (fun row value => ∀ line, relates ⟨line, row⟩ value) rows values) :
    List.Forall₂ relates (numberRows first rows) values := by
  induction each generalizing first with
  | nil => exact .nil
  | cons head _ ih => exact .cons (head first) ih

/-- Numbered rows that are cut in two are numbered on. -/
theorem numberRows_append (first : Nat) (front : List (List Text)) (row : List Text)
    (back : List (List Text)) : numberRows first (front ++ row :: back) =
      numberRows first front ++ ⟨first + front.length, row⟩ ::
        numberRows (first + front.length + 1) back := by
  simp [numberRows, List.zipIdx_append]

theorem numberRows_concat (first : Nat) (rows : List (List Text)) (row : List Text) :
    numberRows first (rows ++ [row]) = numberRows first rows ++ [⟨first + rows.length, row⟩] :=
  numberRows_append first rows row []

theorem readText_eq_ok {bytes : Bytes} {text : Text} :
    readText bytes = .ok text ↔ bytes = Utf8.encode text := by
  rw [← Utf8.decode?_eq_some, readText]
  cases Utf8.decode? bytes <;> simp

/-- Bytes that are no text are reported on the line of the first byte that belongs to none. -/
theorem readText_eq_error {bytes : Bytes} {flaw : Flaw} :
    readText bytes = .error flaw ↔ ∃ front rest, bytes = Utf8.encode front ++ rest ∧
      Utf8.Stray rest ∧ ⟨front.count '\n' + 1, .notText⟩ = flaw := by
  unfold readText
  constructor
  · intro failed
    split at failed
    · cases failed
    · rename_i undecoded
      obtain ⟨front, rest, rfl, stray⟩ := Utf8.decode?_eq_none.mp undecoded
      rw [Utf8.validPrefix_of_stray front stray] at failed
      exact ⟨front, rest, rfl, stray, Except.error.inj failed⟩
  · rintro ⟨front, rest, rfl, stray, rfl⟩
    rw [Utf8.decode?_eq_none.mpr ⟨front, rest, rfl, stray⟩, Utf8.validPrefix_of_stray front stray]
    rfl

theorem rowOfLine_eq_ok {line : Nat} {text : Text} {row : Row} :
    rowOfLine line text = .ok row ↔ tokens text ≠ [] ∧ ⟨line, tokens text⟩ = row := by
  unfold rowOfLine
  split
  · rename_i nothing
    simp [nothing]
  · rename_i filled
    simp [show tokens text ≠ [] from filled]

theorem rowOfLine_eq_error {line : Nat} {text : Text} {flaw : Flaw} :
    rowOfLine line text = .error flaw ↔ tokens text = [] ∧ ⟨line, .blankLine⟩ = flaw := by
  unfold rowOfLine
  split
  · rename_i nothing
    simp [nothing]
  · rename_i filled
    simp [show tokens text ≠ [] from filled]

/-- Lines are read as their rows as soon as none of them is blank. -/
theorem rowsOfLines_eq_ok {first : Nat} {texts : List Text} {rows : List Row} :
    rowsOfLines first texts = .ok rows ↔
      (∀ text ∈ texts, tokens text ≠ []) ∧ numberRows first (texts.map tokens) = rows := by
  induction texts generalizing first rows with
  | nil => simp [rowsOfLines, numberRows]
  | cons text texts ih =>
      simp only [rowsOfLines, bind_eq_ok, rowOfLine_eq_ok, ih, pure_eq, Except.ok.injEq,
        List.forall_mem_cons, List.map_cons]
      constructor
      · rintro ⟨_, ⟨filled, rfl⟩, _, ⟨others, rfl⟩, rfl⟩
        exact ⟨⟨filled, others⟩, rfl⟩
      · rintro ⟨⟨filled, others⟩, rfl⟩
        exact ⟨_, ⟨filled, rfl⟩, _, ⟨others, rfl⟩, rfl⟩

/-- Reading lines as their rows stops at the first one that is blank. -/
theorem rowsOfLines_eq_error {first : Nat} {texts : List Text} {flaw : Flaw} :
    rowsOfLines first texts = .error flaw ↔ ∃ earlier later,
      texts.map tokens = earlier ++ [] :: later ∧ (∀ row ∈ earlier, row ≠ []) ∧
        ⟨first + earlier.length, .blankLine⟩ = flaw := by
  induction texts generalizing first with
  | nil => simp [rowsOfLines]
  | cons text texts ih =>
      simp only [rowsOfLines, bind_eq_error, rowOfLine_eq_ok, rowOfLine_eq_error, ih, pure_eq,
        reduceCtorEq, and_false, exists_false, or_false, List.map_cons]
      constructor
      · rintro (⟨blank, rfl⟩ | ⟨_, ⟨filled, rfl⟩, earlier, later, split, others, rfl⟩)
        · exact ⟨[], texts.map tokens, by rw [blank]; rfl, by simp, rfl⟩
        · refine ⟨tokens text :: earlier, later, by rw [split]; rfl, ?_, ?_⟩
          · exact List.forall_mem_cons.mpr ⟨filled, others⟩
          · rw [List.length_cons, Nat.add_right_comm, Nat.add_assoc]
      · rintro ⟨earlier, later, split, others, rfl⟩
        cases earlier with
        | nil => exact .inl ⟨(List.cons.inj split).1, rfl⟩
        | cons row earlier =>
            obtain ⟨head, rest⟩ := List.cons.inj split
            obtain ⟨filled, others⟩ := List.forall_mem_cons.mp others
            refine .inr ⟨_, ⟨head ▸ filled, rfl⟩, earlier, later, rest, others, ?_⟩
            rw [List.length_cons, Nat.add_right_comm, Nat.add_assoc]

theorem readRows_renderRow {rows : List (List Text)} (areRows : ∀ row ∈ rows, IsRow row) :
    readRows (Utf8.encode (rows.flatMap renderRow)) = .ok (numberRows 1 rows) := by
  have cut := tokens_lines_renderRow areRows
  have filled : ∀ line ∈ lines (rows.flatMap renderRow), tokens line ≠ [] := by
    intro line member
    have isRow : tokens line ∈ rows := by
      rw [← cut]
      exact List.mem_map_of_mem member
    exact (areRows _ isRow).notEmpty
  simp only [readRows, readText, Utf8.decode?_encode, pure_eq, ok_bind]
  exact rowsOfLines_eq_ok.mpr ⟨filled, by rw [cut]⟩

/-- Values that are written one a row are read back, as soon as each of them is. -/
theorem mapM_readRows {toRow : α → List Text} {readRow : Row → Except Flaw α} {values : List α}
    (areRows : ∀ value ∈ values, IsRow (toRow value))
    (each : ∀ value ∈ values, ∀ line, readRow ⟨line, toRow value⟩ = .ok value) :
    (readRows (Utf8.encode (values.flatMap fun value => renderRow (toRow value))) >>=
      (·.mapM readRow)) = .ok values := by
  have rows : ∀ row ∈ values.map toRow, IsRow row := by
    intro row member
    obtain ⟨value, inValues, same⟩ := List.mem_map.mp member
    exact same ▸ areRows value inValues
  have read : List.Forall₂ (fun row value => ∀ line, readRow ⟨line, row⟩ = .ok value)
      (values.map toRow) values := by
    rw [List.forall₂_map_left_iff, List.forall₂_same]
    exact each
  have rendered := readRows_renderRow rows
  rw [List.flatMap_map] at rendered
  rw [rendered, ok_bind, mapM_eq_ok]
  exact forall₂_numberRows read

/-! ## Tokens read -/

theorem exists_line_of_rowsOfLines {first : Nat} {texts : List Text} {rows : List Row}
    (read : rowsOfLines first texts = .ok rows) {row : Row} (member : row ∈ rows) :
    ∃ text, tokens text = row.tokens ∧ row.tokens ≠ [] := by
  obtain ⟨filled, numbered⟩ := rowsOfLines_eq_ok.mp read
  have cut : row.tokens ∈ texts.map tokens := by
    rw [← tokens_numberRows first (texts.map tokens), numbered]
    exact List.mem_map_of_mem member
  obtain ⟨text, inTexts, same⟩ := List.mem_map.mp cut
  exact ⟨text, same, same ▸ filled text inTexts⟩

theorem isToken_of_readRows {bytes : Bytes} {rows : List Row} (read : readRows bytes = .ok rows)
    {row : Row} (member : row ∈ rows) {token : Text} (inRow : token ∈ row.tokens) :
    IsToken token := by
  obtain ⟨text, _, cut⟩ := bind_eq_ok.mp read
  obtain ⟨line, same, -⟩ := exists_line_of_rowsOfLines cut member
  exact isToken_of_mem_tokens (same ▸ inRow)

end Restripe
