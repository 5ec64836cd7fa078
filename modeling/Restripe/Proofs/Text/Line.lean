import Mathlib.Data.List.Basic
import Mathlib.Data.List.Forall2
import Restripe.Text.Line

/-!
# Cutting what was joined

A token is a run of characters that are no separators.  Tokens that are joined with single spaces
are cut apart again, and lines that are ended with line feeds are the lines of the whole text.
-/

namespace Restripe

/-- A run of characters that are no separators. -/
structure IsToken (text : Text) : Prop where
  notEmpty : text ≠ []
  whole : ∀ char ∈ text, isSeparator char = false

/-! ## Tokens of a line -/

theorem cutAtSeparators_append {token : Text} (whole : ∀ char ∈ token, isSeparator char = false)
    (rest : Text) : cutAtSeparators (token ++ rest) =
      (token ++ (cutAtSeparators rest).1, (cutAtSeparators rest).2) := by
  induction token with
  | nil => rfl
  | cons char token ih =>
      have others : ∀ other ∈ token, isSeparator other = false := fun other member =>
        whole other (List.mem_cons_of_mem char member)
      rw [List.cons_append, cutAtSeparators, ih others, whole char List.mem_cons_self]
      rfl

@[simp] theorem tokens_nil : tokens [] = [] := by
  simp [tokens, cutAtSeparators]

theorem tokens_of_isToken {token : Text} (isToken : IsToken token) : tokens token = [token] := by
  have cut := cutAtSeparators_append isToken.whole []
  rw [List.append_nil] at cut
  rw [tokens, cut]
  simp [cutAtSeparators, isToken.notEmpty]

/-- A separator parts the tokens before it from those after it. -/
theorem tokens_append_cons {separator : Char} (separates : isSeparator separator = true)
    (left right : Text) : tokens (left ++ separator :: right) = tokens left ++ tokens right := by
  have cut : cutAtSeparators (left ++ separator :: right) =
      ((cutAtSeparators left).1, (cutAtSeparators left).2 ++
        (cutAtSeparators right).1 :: (cutAtSeparators right).2) := by
    induction left with
    | nil => simp [cutAtSeparators, separates]
    | cons char left ih =>
        by_cases parts : isSeparator char = true <;> simp [cutAtSeparators, ih, parts]
  simp only [tokens, cut]
  rw [← List.cons_append, List.filter_append]

theorem tokens_append_separator {token : Text} (isToken : IsToken token) {separator : Char}
    (separates : isSeparator separator = true) (rest : Text) :
    tokens (token ++ separator :: rest) = token :: tokens rest := by
  rw [tokens_append_cons separates, tokens_of_isToken isToken, List.singleton_append]

theorem whole_of_mem_cut {text part : Text}
    (member : part ∈ (cutAtSeparators text).1 :: (cutAtSeparators text).2) :
    ∀ char ∈ part, isSeparator char = false := by
  induction text generalizing part with
  | nil =>
      have nothing : part = [] := by simpa [cutAtSeparators] using member
      simp [nothing]
  | cons char text ih =>
      rw [cutAtSeparators] at member
      cases separates : isSeparator char with
      | true =>
          simp only [separates, if_true, List.mem_cons] at member
          rcases member with nothing | inOthers
          · simp [nothing]
          · exact ih (List.mem_cons.mpr inOthers)
      | false =>
          simp only [separates, Bool.false_eq_true, if_false, List.mem_cons] at member
          rcases member with isFirst | inOthers
          · intro other inPart
            rw [isFirst] at inPart
            rcases List.mem_cons.mp inPart with same | inFirst
            · rw [same, separates]
            · exact ih List.mem_cons_self other inFirst
          · exact ih (List.mem_cons_of_mem _ inOthers)

theorem isToken_of_mem_tokens {line token : Text} (member : token ∈ tokens line) :
    IsToken token := by
  have filtered := List.mem_filter.mp member
  exact ⟨by simpa using filtered.2, whole_of_mem_cut filtered.1⟩

/-! ## Lines of a text -/

theorem cutAtLineFeeds_append {line : Text} (within : '\n' ∉ line) (rest : Text) :
    cutAtLineFeeds (line ++ '\n' :: rest) =
      (line :: (cutAtLineFeeds rest).1, (cutAtLineFeeds rest).2) := by
  induction line with
  | nil => simp [cutAtLineFeeds]
  | cons char line ih =>
      have different : char ≠ '\n' := fun same => within (same ▸ List.mem_cons_self)
      have others : '\n' ∉ line := fun member => within (List.mem_cons_of_mem char member)
      rw [List.cons_append, cutAtLineFeeds, ih others]
      simp [different]

@[simp] theorem lines_nil : lines [] = [] := by
  simp [lines, cutAtLineFeeds]

theorem lines_append {line : Text} (within : '\n' ∉ line) (rest : Text) :
    lines (line ++ '\n' :: rest) = dropCarriageReturn line :: lines rest := by
  rw [lines, cutAtLineFeeds_append within]
  rfl

theorem dropCarriageReturn_of_not_mem {line : Text} (within : '\r' ∉ line) :
    dropCarriageReturn line = line :=
  if_neg fun last => within (List.mem_of_getLast? last)

/-!
## How a text is laid out in rows

A text is laid out in lines that end at line feeds, and a line in tokens with separators between and
around them.  The rules here say so without a reader.  Cutting a text into lines and a line into
tokens follows them, whether lines end with or without a carriage return and whether or not the last
one ends at all.
-/

/-! ### Lines -/

/-- A text consists of lines.  Each of them ends at a line feed, but a last one that is not empty need
not. -/
inductive IsLines : List Text → Text → Prop where
  | done : IsLines [] []
  | last {line : Text} (filled : line ≠ []) (within : '\n' ∉ line) : IsLines [line] line
  | next {line : Text} {others : List Text} {rest : Text} (within : '\n' ∉ line)
      (isRest : IsLines others rest) : IsLines (line :: others) (line ++ '\n' :: rest)

/-- A carriage return at the end of a line belongs to no token. -/
@[simp] theorem tokens_dropCarriageReturn (line : Text) :
    tokens (dropCarriageReturn line) = tokens line := by
  unfold dropCarriageReturn
  split
  · rename_i last
    obtain ⟨start, rfl⟩ := List.getLast?_eq_some_iff.mp last
    rw [List.dropLast_concat, tokens_append_cons rfl, tokens_nil, List.append_nil]
  · rfl

theorem cutAtLineFeeds_of_notMem {line : Text} (within : '\n' ∉ line) :
    cutAtLineFeeds line = ([], line) := by
  induction line with
  | nil => rfl
  | cons char line ih =>
      rw [List.mem_cons, not_or] at within
      simp [cutAtLineFeeds, ih within.2, Ne.symm within.1]

/-- A last line that ends at no line feed is a line as it is. -/
theorem lines_of_notMem {line : Text} (filled : line ≠ []) (within : '\n' ∉ line) :
    lines line = [line] := by
  rw [lines, cutAtLineFeeds_of_notMem within]
  simp [filled]

/-- Cutting a text into lines gives the lines that it consists of, but for the carriage returns at
their ends. -/
theorem IsLines.map_tokens {texts : List Text} {text : Text} (isLines : IsLines texts text) :
    (lines text).map tokens = texts.map tokens := by
  induction isLines with
  | done => simp
  | last filled within => rw [lines_of_notMem filled within]
  | next within _ ih =>
      rw [lines_append within, List.map_cons, List.map_cons, tokens_dropCarriageReturn, ih]

theorem exists_isLines (text : Text) : ∃ texts, IsLines texts text := by
  induction text with
  | nil => exact ⟨[], .done⟩
  | cons char text ih =>
      obtain ⟨texts, isLines⟩ := ih
      by_cases feeds : char = '\n'
      · have whole : IsLines ([] :: texts) ([] ++ '\n' :: text) := .next List.not_mem_nil isLines
        exact ⟨_, feeds ▸ whole⟩
      · cases isLines with
        | done => exact ⟨[[char]], .last (List.cons_ne_nil _ _) (by simpa using Ne.symm feeds)⟩
        | last filled within =>
            refine ⟨[char :: text], .last (List.cons_ne_nil _ _) ?_⟩
            rw [List.mem_cons, not_or]
            exact ⟨Ne.symm feeds, within⟩
        | @next line others rest within isRest =>
            have longer : '\n' ∉ char :: line := by
              rw [List.mem_cons, not_or]
              exact ⟨Ne.symm feeds, within⟩
            exact ⟨(char :: line) :: others, .next longer isRest⟩

/-! ### Tokens -/

/-- A line consists of tokens, with separators between them and around them. -/
inductive Holds : Text → List Text → Prop where
  | done : Holds [] []
  | skip {separator : Char} {line : Text} {row : List Text}
      (separates : isSeparator separator = true) (isRest : Holds line row) :
      Holds (separator :: line) row
  | last {token : Text} (isToken : IsToken token) : Holds token [token]
  | next {token line : Text} {separator : Char} {row : List Text} (isToken : IsToken token)
      (separates : isSeparator separator = true) (isRest : Holds line row) :
      Holds (token ++ separator :: line) (token :: row)

theorem Holds.tokens_eq {line : Text} {row : List Text} (holds : Holds line row) :
    tokens line = row := by
  induction holds with
  | done => exact tokens_nil
  | @skip separator line row separates _ ih =>
      have skipped := tokens_append_cons separates [] line
      rw [List.nil_append, tokens_nil, List.nil_append] at skipped
      rw [skipped, ih]
  | last isToken => exact tokens_of_isToken isToken
  | next isToken separates _ ih => rw [tokens_append_separator isToken separates, ih]

/-- A character before a line starts a token of its own, or begins the first token of the line. -/
theorem exists_holds_cons {char : Char} (inToken : isSeparator char = false) {line : Text}
    {row : List Text} (holds : Holds line row) : ∃ others, Holds (char :: line) others := by
  have single : IsToken [char] := ⟨List.cons_ne_nil _ _, by simpa using inToken⟩
  cases holds with
  | done => exact ⟨_, .last single⟩
  | skip separates isRest => exact ⟨_, .next single separates isRest⟩
  | last isToken =>
      refine ⟨_, .last ⟨List.cons_ne_nil _ _, ?_⟩⟩
      exact List.forall_mem_cons.mpr ⟨inToken, isToken.whole⟩
  | @next token rest separator others isToken separates isRest =>
      have longer : IsToken (char :: token) :=
        ⟨List.cons_ne_nil _ _, List.forall_mem_cons.mpr ⟨inToken, isToken.whole⟩⟩
      exact ⟨_, .next longer separates isRest⟩

theorem exists_holds (line : Text) : ∃ row, Holds line row := by
  induction line with
  | nil => exact ⟨[], .done⟩
  | cons char line ih =>
      obtain ⟨row, holds⟩ := ih
      cases separates : isSeparator char with
      | true => exact ⟨row, .skip separates holds⟩
      | false => exact exists_holds_cons separates holds

/-- The tokens of a line are those that it consists of. -/
theorem holds_iff {line : Text} {row : List Text} : Holds line row ↔ tokens line = row := by
  constructor
  · exact Holds.tokens_eq
  · intro same
    obtain ⟨other, holds⟩ := exists_holds line
    rw [← same, holds.tokens_eq]
    exact holds

/-! ### Rows -/

/-- A text is laid out in rows: a line for each of them, which consists of its tokens. -/
def LaidOut (rows : List (List Text)) (text : Text) : Prop :=
  ∃ texts, IsLines texts text ∧ List.Forall₂ Holds texts rows

/-- A text is laid out in the rows that its lines are cut into. -/
theorem laidOut_iff {rows : List (List Text)} {text : Text} :
    LaidOut rows text ↔ (lines text).map tokens = rows := by
  constructor
  · rintro ⟨texts, isLines, holds⟩
    rw [isLines.map_tokens]
    clear isLines
    induction holds with
    | nil => rfl
    | cons head _ ih => rw [List.map_cons, head.tokens_eq, ih]
  · intro same
    obtain ⟨texts, isLines⟩ := exists_isLines text
    refine ⟨texts, isLines, ?_⟩
    rw [← same, isLines.map_tokens, List.forall₂_map_right_iff, List.forall₂_same]
    intro line _
    exact holds_iff.mpr rfl

theorem LaidOut.isToken {rows : List (List Text)} {text : Text} (laidOut : LaidOut rows text)
    {row : List Text} (member : row ∈ rows) {token : Text} (inRow : token ∈ row) :
    IsToken token := by
  rw [← laidOut_iff.mp laidOut] at member
  obtain ⟨line, -, rfl⟩ := List.mem_map.mp member
  exact isToken_of_mem_tokens inRow

end Restripe
