import Restripe.Datum.Toml.Writer

/-!
# Tokens of written TOML

A word is read as one token before any character that is a token by itself, and an escaped character
of a string is read as the character, in a line as in a block.
-/

namespace Restripe.Toml

open Scanner (scanFrom_append_of_kept scanFrom_congr scanFrom_cons scanFrom_flatMap scanFrom_of_mark
  scanFrom_of_silent)

@[simp] theorem scanner_step : scanner.step = step :=
  rfl

@[simp] theorem scanner_finish : scanner.finish = finish :=
  rfl

/-- A character that is a token by itself. -/
theorem scanFrom_mark {token : Token} {mark : Char} (isMark : punctuation? mark = some token)
    (rest : Text) :
    scanner.scanFrom .between (mark :: rest) = (scanner.scanFrom .between rest).map (token :: ·) := by
  apply scanFrom_of_mark
  rw [scanner_step, step, start, isMark]

/-- A token that ends before the next character. -/
theorem scanFrom_of_startAfter {mode : Mode} {token : Token} {char : Char}
    (step : step mode char = some (startAfter token char)) (rest : Text) :
    scanner.scanFrom mode (char :: rest) = (scanner.scanFrom .between (char :: rest)).map (token :: ·) := by
  rw [scanFrom_cons, scanFrom_cons, scanner_step, step, Toml.step, startAfter]
  simp [Function.comp_def]

/-- Whether a text is read as one token before every character that is a token by itself. -/
def Reads (text : Text) (token : Token) : Prop :=
  ∀ char rest, (punctuation? char).isSome = true →
    scanner.scanFrom .between (text ++ char :: rest) = (scanner.scanFrom .between (char :: rest)).map (token :: ·)

/-! ## Words -/

theorem endsWord_of_punctuation {char : Char} (isMark : (punctuation? char).isSome = true) :
    endsWord char = true := by
  simp [endsWord, isMark]

theorem scanFrom_word {letters : Text} (within : ∀ letter ∈ letters, endsWord letter = false)
    {char : Char} (isMark : (punctuation? char).isSome = true) (read rest : Text) :
    scanner.scanFrom (.word read) (letters ++ char :: rest) =
      (scanner.scanFrom .between (char :: rest)).map (.word (read.reverse ++ letters) :: ·) := by
  have kept : ∀ letter ∈ letters, ∀ read,
      scanner.step (.word read) letter = some ([], .word (letter :: read)) := by
    intro letter member read
    rw [scanner_step, step, within letter member]
    rfl
  have ended : step (.word (letters.reverse ++ read)) char =
      some (startAfter (.word (read.reverse ++ letters)) char) := by
    rw [step, if_pos (endsWord_of_punctuation isMark), List.reverse_append, List.reverse_reverse]
  rw [scanFrom_append_of_kept Mode.word kept, scanFrom_of_startAfter ended]

/-- Letters that do not end a word are read as one. -/
theorem reads_word {word : Text} (filled : word ≠ [])
    (within : ∀ char ∈ word, endsWord char = false) : Reads word (.word word) := by
  intro char rest isMark
  cases word with
  | nil => exact absurd rfl filled
  | cons first word =>
      obtain ⟨starts, others⟩ := List.forall_mem_cons.mp within
      have started : step .between first = some ([], .word [first]) := by
        simp only [endsWord, Bool.or_eq_false_iff, Option.isSome_eq_false_iff,
          Option.isNone_iff_eq_none, beq_eq_false_iff_ne] at starts
        obtain ⟨⟨⟨noToken, noReturn⟩, noComment⟩, noMark⟩ := starts
        simp [step, start, noToken, noReturn, noComment, noMark]
      rw [List.cons_append, scanFrom_of_silent _ started, scanFrom_word others isMark]
      rfl

/-! ## Escapes -/

theorem scanFrom_backslash (isBlock : Bool) (read rest : Text) :
    scanner.scanFrom (resume isBlock read) ('\\' :: rest) = scanner.scanFrom (.escape isBlock read) rest := by
  cases isBlock <;> exact scanFrom_of_silent _ rfl rest

theorem scanFrom_escape {isBlock : Bool} {letter char : Char} {read : Text}
    (stands : step (.escape isBlock read) letter = some ([], resume isBlock (char :: read)))
    (rest : Text) :
    scanner.scanFrom (resume isBlock read) ('\\' :: letter :: rest) =
      scanner.scanFrom (resume isBlock (char :: read)) rest := by
  rw [scanFrom_backslash, scanFrom_of_silent _ stands]

theorem ne_of_isPlain {char other : Char} (plain : isPlain char = true)
    (control : isPlain other = false) : char ≠ other := by
  rintro rfl
  rw [plain] at control
  cases control

theorem scanFrom_plain (isBlock : Bool) {char : Char} (plain : isPlain char = true)
    (noMark : char ≠ escapingMark) (noBackslash : char ≠ '\\') (read rest : Text) :
    scanner.scanFrom (resume isBlock read) (char :: rest) =
      scanner.scanFrom (resume isBlock (char :: read)) rest := by
  have noEnd : char ≠ '\n' := ne_of_isPlain plain rfl
  have noReturn : char ≠ '\r' := ne_of_isPlain plain rfl
  cases isBlock with
  | false =>
      exact scanFrom_of_silent _ (by simp [resume, step, stepLine, noMark, noBackslash, plain]) rest
  | true =>
      exact scanFrom_of_silent _ (by
        simp [resume, step, stepBlock, stepContent, noMark, noEnd, noReturn, noBackslash,
          plain]) rest

theorem scanFrom_controlCode (isBlock : Bool) {char : Char} (small : char.toNat < 0x80)
    (read rest : Text) :
    scanner.scanFrom (resume isBlock read) (controlCode char ++ rest) =
      scanner.scanFrom (resume isBlock (char :: read)) rest := by
  have high : Hexadecimal.digit? (Hexadecimal.upperDigit (char.toNat / 16)) =
      some (char.toNat / 16) := Hexadecimal.digit?_upperDigit (by omega)
  have low : Hexadecimal.digit? (Hexadecimal.upperDigit (char.toNat % 16)) =
      some (char.toNat % 16) := Hexadecimal.digit?_upperDigit (by omega)
  have whole : char.toNat / 16 * 16 + char.toNat % 16 = char.toNat := by omega
  have known : character? char.toNat = some char := by
    rw [character?, if_pos (.inl (by omega)), Char.ofNat_toNat]
  simp only [controlCode, List.cons_append, List.nil_append]
  rw [scanFrom_backslash, scanFrom_of_silent (.code isBlock 4 0 read) rfl,
    scanFrom_of_silent (.code isBlock 3 0 read) rfl,
    scanFrom_of_silent (.code isBlock 2 0 read) rfl,
    scanFrom_of_silent (.code isBlock 1 (char.toNat / 16) read) (by simp [step, stepCode, high]),
    scanFrom_of_silent (resume isBlock (char :: read))
      (by simp [step, stepCode, low, whole, known])]

/-- An escaped character is read as the character. -/
theorem scanFrom_escapeChar (isBlock : Bool) {char : Char} (noMark : char ≠ escapingMark)
    (read rest : Text) :
    scanner.scanFrom (resume isBlock read) (escapeChar char ++ rest) =
      scanner.scanFrom (resume isBlock (char :: read)) rest := by
  unfold escapeChar
  -- one case for each character with an escape of its own
  split
  case h_6 noBackslash _ _ _ _ =>
    split
    · rename_i plain
      exact scanFrom_plain isBlock plain noMark noBackslash read rest
    · rename_i control
      have small : char.toNat < 0x80 := by
        simp only [isPlain, Bool.or_eq_true, Bool.and_eq_true, not_or, not_and, decide_eq_true_eq,
          bne_iff_ne, ne_eq, Classical.not_not] at control
        omega
      exact scanFrom_controlCode isBlock small read rest
  all_goals
    cases isBlock <;> exact scanFrom_escape rfl rest

theorem exists_escapeChar {char : Char} (noMark : char ≠ escapingMark) : ∃ first others,
    escapeChar char = first :: others ∧ first ≠ escapingMark ∧ first ≠ '\n' ∧ first ≠ '\r' := by
  unfold escapeChar
  split
  case h_6 =>
    split
    · rename_i plain
      exact ⟨char, [], rfl, noMark, ne_of_isPlain plain rfl, ne_of_isPlain plain rfl⟩
    · exact ⟨_, _, rfl, by decide, by decide, by decide⟩
  all_goals exact ⟨_, _, rfl, by decide, by decide, by decide⟩

/-!
## Strings of written TOML

A string is read back as one token, whichever form it is written in.  On a line the string ends at
the first mark, so all marks in it are escaped, or there are none.  In a block it ends at the third
mark in a row: the reader counts the marks as the writer does, so there are never three in a row
within the string, and the marks at its end are told from the three that end it.
-/

/-! ### Marks -/

theorem step_of_isMark {mark : Char} (marks : isMark mark = true) :
    step .between mark = some ([], .opening mark false) := by
  rcases (Bool.or_eq_true ..).mp marks with isEscaping | isLiteral
  · rw [beq_iff_eq.mp isEscaping]
    rfl
  · rw [beq_iff_eq.mp isLiteral]
    rfl

theorem ne_of_isMark {mark char : Char} (marks : isMark mark = true)
    (isToken : (punctuation? char).isSome = true) : char ≠ mark := by
  rintro rfl
  rcases (Bool.or_eq_true ..).mp marks with isEscaping | isLiteral
  · rw [beq_iff_eq.mp isEscaping] at isToken
    cases isToken
  · rw [beq_iff_eq.mp isLiteral] at isToken
    cases isToken

/-! ### Strings on one line -/

/-- Between marks, what is read character by character within a line is one token. -/
theorem reads_line {mark : Char} (marks : isMark mark = true) {body text : Text}
    (within : ∀ rest, scanner.scanFrom (.line mark []) (body ++ rest) =
      scanner.scanFrom (.line mark text.reverse) rest)
    (starts : body.head? ≠ some mark) (nothing : body = [] → text = []) :
    Reads (mark :: body ++ [mark]) (.text false text) := by
  intro char rest isToken
  have differs := ne_of_isMark marks isToken
  rw [List.append_assoc, List.cons_append, List.singleton_append,
    scanFrom_of_silent _ (step_of_isMark marks)]
  cases body with
  | nil =>
      have ended : step (.opening mark true) char = some (startAfter (.text false text) char) := by
        rw [nothing rfl, step, if_neg differs]
      rw [List.nil_append, scanFrom_of_silent (.opening mark true) (by rw [scanner_step, step, if_pos rfl]),
        scanFrom_of_startAfter ended]
  | cons first body =>
      have noMark : first ≠ mark := fun same => starts (congrArg some same)
      have opened : scanner.step (.opening mark false) first =
          scanner.step (.line mark []) first := by
        rw [scanner_step, step, if_neg noMark, step]
      have closed : step (.line mark text.reverse) mark = some ([.text false text], .between) := by
        rw [step, stepLine, if_pos rfl, List.reverse_reverse]
      rw [List.cons_append, scanFrom_congr opened, ← List.cons_append, within,
        scanFrom_of_mark closed]

theorem scanFrom_escapeInLine (char : Char) (read rest : Text) :
    scanner.scanFrom (.line escapingMark read) (escapeInLine char ++ rest) =
      scanner.scanFrom (.line escapingMark (char :: read)) rest := by
  unfold escapeInLine
  split
  · rename_i isMark
    subst isMark
    exact @scanFrom_escape false _ _ _ rfl rest
  · rename_i noMark
    split
    · rename_i isEnd
      subst isEnd
      exact @scanFrom_escape false _ _ _ rfl rest
    · exact scanFrom_escapeChar false noMark read rest

/-- What is written of a character on a line begins with no mark. -/
theorem exists_escapeInLine (char : Char) : ∃ first others,
    escapeInLine char = first :: others ∧ first ≠ escapingMark := by
  unfold escapeInLine
  split
  · exact ⟨_, _, rfl, by decide⟩
  · rename_i noMark
    split
    · exact ⟨_, _, rfl, by decide⟩
    · obtain ⟨first, others, written, differs, -⟩ := exists_escapeChar noMark
      exact ⟨first, others, written, differs⟩

theorem reads_quoteLine (text : Text) : Reads (quoteLine text) (.text false text) := by
  refine reads_line rfl (fun rest => ?_) ?_ ?_
  · have followed := scanFrom_flatMap (Mode.line escapingMark) id
      (fun char (_ : char ∈ text) => scanFrom_escapeInLine char) [] rest
    rwa [List.map_id, List.append_nil] at followed
  all_goals
    cases text with
    | nil => simp
    | cons char text =>
        obtain ⟨first, others, written, differs⟩ := exists_escapeInLine char
        simp [written, differs]

theorem step_literalLine {char : Char} (plain : isPlain char = true) (noMark : char ≠ literalMark)
    (read : Text) :
    step (.line literalMark read) char = some ([], .line literalMark (char :: read)) := by
  have noEscapes : literalMark ≠ escapingMark := by decide
  simp [step, stepLine, noMark, plain, noEscapes]

theorem reads_quoteLiteral {text : Text} (fits : fitsLiteral text = true) :
    Reads (quoteLiteral text) (.text false text) := by
  simp only [fitsLiteral, List.all_eq_true, Bool.and_eq_true, bne_iff_ne] at fits
  refine reads_line rfl (fun rest => ?_) (fun starts => ?_) id
  · have kept : ∀ char ∈ text, ∀ read,
        scanner.step (.line literalMark read) char =
          some ([], .line literalMark (char :: read)) := by
      intro char member read
      exact step_literalLine (fits char member).1 (fits char member).2 read
    rw [scanFrom_append_of_kept _ kept, List.append_nil]
  · exact (fits _ (List.mem_of_head? starts)).2 rfl

/-! ### Strings that span lines -/

theorem scanFrom_count {mark : Char} {isFresh : Bool} {marks : Nat} (few : marks < 5)
    (read rest : Text) :
    scanner.scanFrom (.block mark isFresh marks read) (mark :: rest) =
      scanner.scanFrom (.block mark false (marks + 1) read) rest :=
  scanFrom_of_silent _ (by rw [scanner_step, step, stepBlock, if_pos rfl, if_pos few]) rest

/-- The last three of three to five marks in a row end a block. -/
theorem scanFrom_closing {mark : Char} (isFresh : Bool) {marks : Nat} (few : marks ≤ 2)
    (read : Text) {char : Char} (differs : char ≠ mark) (rest : Text) :
    scanner.scanFrom (.block mark isFresh marks read) (mark :: mark :: mark :: char :: rest) =
      (scanner.scanFrom .between (char :: rest)).map
        (.text true (List.replicate marks mark ++ read).reverse :: ·) := by
  have ended : step (.block mark false (marks + 3) read) char =
      some (startAfter (.text true (List.replicate marks mark ++ read).reverse) char) := by
    rw [step, stepBlock, if_neg differs, if_pos (by omega), Nat.add_sub_cancel]
  rw [scanFrom_count (by omega), scanFrom_count (by omega), scanFrom_count (by omega),
    scanFrom_of_startAfter ended]

/-- Up to two marks before another character stand for themselves.  Whether the block has just
begun matters for a line end only. -/
theorem scanFrom_settle {mark char : Char} {isFresh : Bool} {marks : Nat} (few : marks ≤ 2)
    (read : Text) (noMark : char ≠ mark) (noReturn : char ≠ '\r')
    (begun : isFresh = true → char ≠ '\n') (rest : Text) :
    scanner.scanFrom (.block mark isFresh marks read) (char :: rest) =
      scanner.scanFrom (.block mark false 0 (List.replicate marks mark ++ read)) (char :: rest) := by
  refine scanFrom_congr ?_ rest
  rw [scanner_step, step, step, stepBlock, stepBlock, if_neg noMark, if_neg noMark, if_neg (by omega),
    if_neg (by omega), List.replicate_zero, List.nil_append, stepContent, stepContent]
  cases isFresh with
  | false => rfl
  | true => rw [if_neg (begun rfl), if_neg (begun rfl), if_neg noReturn, if_neg noReturn]

/-- Whether a piece of a block is read as a character, and begins with no mark.  Only a line end
begins with one, since the first line end of a block is dropped. -/
structure StandsFor (mark : Char) (piece : Text) (char : Char) : Prop where
  begins : ∃ first others, piece = first :: others ∧ first ≠ mark ∧ first ≠ '\r' ∧
    (first = '\n' → char = '\n')
  reads : ∀ read rest, scanner.scanFrom (.block mark false 0 read) (piece ++ rest) =
    scanner.scanFrom (.block mark false 0 (char :: read)) rest

/-- Whether a body spells a text in a block after some marks in a row.  Marks stand for themselves
where there are no three of them in a row. -/
inductive Spells (mark : Char) : Nat → Text → Text → Prop where
  | nil {marks : Nat} (few : marks ≤ 2) : Spells mark marks [] []
  | mark {marks : Nat} {text body : Text} (few : marks < 2)
      (rest : Spells mark (marks + 1) text body) : Spells mark marks (mark :: text) (mark :: body)
  | piece {marks : Nat} {char : Char} {piece text body : Text} (few : marks ≤ 2)
      (stands : StandsFor mark piece char) (rest : Spells mark 0 text body) :
      Spells mark marks (char :: text) (piece ++ body)

/-- The reader of a block counts marks as its writer does, so the body is read up to the marks that
end the block. -/
theorem Spells.scanFrom {mark : Char} {isFresh : Bool} {marks : Nat} {text body : Text}
    (spells : Spells mark marks text body) (begun : isFresh = true → '\n' ∉ text) {char : Char}
    (differs : char ≠ mark) (read rest : Text) :
    scanner.scanFrom (.block mark isFresh marks read) (body ++ mark :: mark :: mark :: char :: rest) =
      (scanner.scanFrom .between (char :: rest)).map
        (.text true ((List.replicate marks mark ++ read).reverse ++ text) :: ·) := by
  have stale {text : Text} (fresh : false = true) : '\n' ∉ text := absurd fresh Bool.false_ne_true
  induction spells generalizing isFresh read with
  | nil few => rw [List.nil_append, scanFrom_closing isFresh few read differs, List.append_nil]
  | mark few _ ih =>
      rw [List.cons_append, scanFrom_count (by omega), ih stale, List.replicate_succ]
      simp
  | piece few stands _ ih =>
      obtain ⟨first, others, rfl, noMark, noReturn, isEnd⟩ := stands.begins
      have noEnd (fresh : isFresh = true) : first ≠ '\n' := fun same =>
        begun fresh (isEnd same ▸ List.mem_cons_self)
      rw [List.append_assoc, List.cons_append, scanFrom_settle few read noMark noReturn noEnd,
        ← List.cons_append, stands.reads, ih stale]
      simp

/-- Between triple marks, the body that spells a text is one token.  The line end that is put before
a text that spans lines is the one that is dropped. -/
theorem reads_encloseBlock {mark : Char} (marks : isMark mark = true) {body text : Text}
    (spells : Spells mark 0 text body) :
    Reads (encloseBlock mark (text.contains '\n') body) (.text true text) := by
  intro char rest isToken
  have differs := ne_of_isMark marks isToken
  have opened (later : Text) : scanner.scanFrom .between (mark :: mark :: mark :: later) =
      scanner.scanFrom (.block mark true 0 []) later := by
    rw [scanFrom_of_silent _ (step_of_isMark marks),
      scanFrom_of_silent (.opening mark true) (by rw [scanner_step, step, if_pos rfl]),
      scanFrom_of_silent (.block mark true 0 []) (by rw [scanner_step, step, if_pos rfl])]
  simp only [encloseBlock, List.append_assoc, List.cons_append, List.nil_append, opened]
  cases spans : text.contains '\n' with
  | false => exact spells.scanFrom (fun _ => by simpa using spans) differs [] rest
  | true =>
      have noMark : '\n' ≠ mark := ne_of_isMark marks rfl
      have dropped : step (.block mark true 0 []) '\n' = some ([], .block mark false 0 []) := by
        rw [step, stepBlock, if_neg noMark]
        rfl
      have stale (fresh : false = true) : '\n' ∉ text := absurd fresh Bool.false_ne_true
      rw [if_pos rfl, List.singleton_append, scanFrom_of_silent _ dropped]
      exact spells.scanFrom stale differs [] rest

/-! #### Blocks with escapes -/

theorem standsFor_lineEnd {mark : Char} (noMark : '\n' ≠ mark) : StandsFor mark ['\n'] '\n' where
  begins := ⟨_, _, rfl, noMark, by decide, fun _ => rfl⟩
  reads _ rest := scanFrom_of_silent _ (by rw [scanner_step, step, stepBlock, if_neg noMark]; rfl) rest

theorem standsFor_escapedMark : StandsFor escapingMark ['\\', escapingMark] escapingMark where
  begins := ⟨_, _, rfl, by decide, by decide, nofun⟩
  reads _ rest := @scanFrom_escape true _ _ _ rfl rest

theorem standsFor_escapeChar {char : Char} (noMark : char ≠ escapingMark) :
    StandsFor escapingMark (escapeChar char) char where
  begins := by
    obtain ⟨first, others, written, differs, noEnd, noReturn⟩ := exists_escapeChar noMark
    exact ⟨first, others, written, differs, noReturn, fun isEnd => absurd isEnd noEnd⟩
  reads := scanFrom_escapeChar true noMark

theorem spells_escapeBlock {marks : Nat} (few : marks ≤ 2) (text : Text) :
    Spells escapingMark marks text (escapeBlock marks text) := by
  induction text generalizing marks with
  | nil => exact .nil few
  | cons char text ih =>
      rw [escapeBlock]
      split
      · rename_i isMark
        subst isMark
        split
        · exact .piece few standsFor_escapedMark (ih (Nat.zero_le 2))
        · exact .mark (by omega) (ih (by omega))
      · rename_i noMark
        split
        · rename_i isEnd
          subst isEnd
          exact .piece few (standsFor_lineEnd noMark) (ih (Nat.zero_le 2))
        · exact .piece few (standsFor_escapeChar noMark) (ih (Nat.zero_le 2))

theorem reads_quoteBlock (text : Text) : Reads (quoteBlock text) (.text true text) :=
  reads_encloseBlock rfl (spells_escapeBlock (Nat.zero_le 2) text)

/-! #### Blocks without escapes -/

theorem standsFor_plain {char : Char} (plain : isPlain char = true) (noMark : char ≠ literalMark) :
    StandsFor literalMark [char] char where
  begins := ⟨_, _, rfl, noMark, ne_of_isPlain plain rfl, fun isEnd => isEnd⟩
  reads read rest := by
    have noEscape : ¬(char = '\\' ∧ literalMark = escapingMark) := fun both => nomatch both.2
    have kept : step (.block literalMark false 0 read) char =
        some ([], .block literalMark false 0 (char :: read)) := by
      rw [step, stepBlock, if_neg noMark, if_neg (by omega), stepContent,
        if_neg (ne_of_isPlain plain rfl), if_neg (ne_of_isPlain plain rfl), if_neg noEscape,
        if_pos plain]
      rfl
    exact scanFrom_of_silent _ kept rest

theorem hasTriple_of_append {mark : Char} {front text : Text}
    (none : hasTriple mark (front ++ text) = false) : hasTriple mark text = false := by
  induction front with
  | nil => exact none
  | cons first front ih =>
      refine ih ?_
      rw [List.cons_append] at none
      match front ++ text, none with
      | [], _ => rfl
      | [_], _ => rfl
      | _ :: _ :: _, none => exact (Bool.or_eq_false_iff.mp none).2

/-- Without three marks in a row, a text spells itself in a block without escapes. -/
theorem spells_literal {marks : Nat} {text : Text} (few : marks ≤ 2)
    (plain : ∀ char ∈ text, isBlockPlain char = true)
    (noTriple : hasTriple literalMark (List.replicate marks literalMark ++ text) = false) :
    Spells literalMark marks text text := by
  induction text generalizing marks with
  | nil => exact .nil few
  | cons char text ih =>
      obtain ⟨first, others⟩ := List.forall_mem_cons.mp plain
      by_cases isMark : char = literalMark
      · subst isMark
        have counted : List.replicate marks literalMark ++ literalMark :: text =
            List.replicate (marks + 1) literalMark ++ text := by
          rw [List.replicate_succ']
          simp
        have notFull : marks ≠ 2 := by
          rintro rfl
          cases noTriple
        exact .mark (by omega) (ih (by omega) others (counted ▸ noTriple))
      · have stands : StandsFor literalMark [char] char := by
          rcases (Bool.or_eq_true ..).mp first with isEnd | plain
          · rw [beq_iff_eq.mp isEnd]
            exact standsFor_lineEnd (by decide)
          · exact standsFor_plain plain isMark
        have restNoTriple : hasTriple literalMark ([char] ++ text) = false :=
          hasTriple_of_append noTriple
        exact .piece few stands (ih (Nat.zero_le 2) others (hasTriple_of_append restNoTriple))

theorem reads_quoteLiteralBlock {text : Text} (fits : fitsLiteralBlock text = true) :
    Reads (quoteLiteralBlock text) (.text true text) := by
  simp only [fitsLiteralBlock, Bool.and_eq_true, List.all_eq_true, Bool.not_eq_true'] at fits
  exact reads_encloseBlock rfl (spells_literal (Nat.zero_le 2) fits.1 fits.2)

/-! ### All forms -/

/-- A string is read back as it was, whichever form it is written in. -/
theorem reads_quote (text : Text) : ∃ isBlock, Reads (quote text) (.text isBlock text) := by
  unfold quote
  split
  · exact ⟨false, reads_quoteLine text⟩
  split
  · rename_i fits
    exact ⟨false, reads_quoteLiteral fits⟩
  split
  · exact ⟨true, reads_quoteBlock text⟩
  split
  · rename_i fits
    exact ⟨true, reads_quoteLiteralBlock fits⟩
  split
  · exact ⟨true, reads_quoteBlock text⟩
  · exact ⟨false, reads_quoteLine text⟩

end Restripe.Toml
