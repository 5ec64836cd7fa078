import Mathlib.Data.List.Forall2
import Mathlib.Data.List.TakeWhile
import Restripe.Datum.Json.Reader
import Restripe.Datum.Json.Writer
import Restripe.Proofs.Text.Numeral

/-!
# Reading written JSON

The written text of a value is read back as the value, in every layout that puts only spaces and
line ends between tokens, as long as each part of the value has a kind of its own.
-/

/-!
## Tokens of written JSON

What is written of a string, a number or a word is read as one token, wherever no letter, digit or
mark follows that could belong to it.
-/

namespace Restripe.Json

open Scanner (scanFrom_append_of_kept scanFrom_cons scanFrom_flatMap scanFrom_of_mark
  scanFrom_of_silent)

/-- Whether a character ends a numeral or a word. -/
def breaks (char : Char) : Bool :=
  !isNumeral char && !char.isLower

/-- Whether a text is empty or begins with a character that ends a numeral or a word. -/
def Broken (rest : Text) : Prop :=
  ∀ char ∈ rest.head?, breaks char = true

/-- Whether a text is read as these tokens, wherever it does not go on. -/
def Reads (text : Text) (tokens : List Token) : Prop :=
  ∀ rest, Broken rest →
    scanner.scanFrom .between (text ++ rest) = (scanner.scanFrom .between rest).map (tokens ++ ·)

@[simp] theorem scanner_step : scanner.step = step :=
  rfl

/-! ### Strings -/

/-- The characters of a text, each one unit, are the text. -/
theorem joinUnits?_toNat (text : Text) : joinUnits? (text.map Char.toNat) = some text := by
  induction text with
  | nil => rfl
  | cons char text ih =>
      have valid : ¬(0xD800 ≤ char.toNat ∧ char.toNat < 0xE000) := by
        have valid : char.toNat < 0xD800 ∨ 0xDFFF < char.toNat ∧ char.toNat < 0x110000 := char.valid
        omega
      cases text with
      | nil => simp [joinUnits?, valid]
      | cons second text =>
          rw [List.map_cons] at ih ⊢
          rw [List.map_cons, joinUnits?, if_neg (by omega), if_neg (by omega), ← List.map_cons,
            List.map_cons, ih]
          simp

theorem scanFrom_escape {letter char : Char} (stands : escape? letter = some char)
    (noCode : letter ≠ 'u') (units : List Nat) (rest : Text) :
    scanner.scanFrom (.text units) ('\\' :: letter :: rest) =
      scanner.scanFrom (.text (char.toNat :: units)) rest := by
  rw [scanFrom_of_silent (.escape units) rfl,
    scanFrom_of_silent (.text (char.toNat :: units)) (by simp [step, noCode, stands])]

theorem scanFrom_controlCode {char : Char} (control : char.toNat < 0x20) (units : List Nat)
    (rest : Text) :
    scanner.scanFrom (.text units) (controlCode char ++ rest) =
      scanner.scanFrom (.text (char.toNat :: units)) rest := by
  have high : Hexadecimal.digit? (Nat.digitChar (char.toNat / 16)) = some (char.toNat / 16) :=
    Hexadecimal.digit?_digitChar (by omega)
  have low : Hexadecimal.digit? (Nat.digitChar (char.toNat % 16)) = some (char.toNat % 16) :=
    Hexadecimal.digit?_digitChar (by omega)
  have whole : char.toNat / 16 * 16 + char.toNat % 16 = char.toNat := by omega
  simp only [controlCode, List.cons_append, List.nil_append]
  rw [scanFrom_of_silent (.escape units) rfl, scanFrom_of_silent (.code units 0 0) rfl,
    scanFrom_of_silent (.code units 1 0) rfl, scanFrom_of_silent (.code units 2 0) rfl,
    scanFrom_of_silent (.code units 3 (char.toNat / 16)) (by simp [step, high]),
    scanFrom_of_silent (.text (char.toNat :: units)) (by simp [step, low, whole])]

/-- A written character of a string is read as the character. -/
theorem scanFrom_quoteChar (char : Char) (units : List Nat) (rest : Text) :
    scanner.scanFrom (.text units) (quoteChar char ++ rest) =
      scanner.scanFrom (.text (char.toNat :: units)) rest := by
  unfold quoteChar
  -- one case for each character with an escape of its own
  split
  case h_8 noQuote noBackslash _ _ _ _ _ =>
    split
    · rename_i control
      exact scanFrom_controlCode control units rest
    · rename_i plain
      have stands : step (.text units) char = some ([], .text (char.toNat :: units)) := by
        rw [step, if_neg noQuote, if_neg noBackslash, if_neg plain]
      exact scanFrom_of_silent _ stands rest
  all_goals exact scanFrom_escape rfl (by decide) units rest

theorem reads_quote (value : String) : Reads (quote value) [.text (some value)] := by
  intro rest _
  have body (units : List Nat) (rest : Text) :
      scanner.scanFrom (.text units) (value.toList.flatMap quoteChar ++ rest) =
        scanner.scanFrom (.text ((value.toList.map Char.toNat).reverse ++ units)) rest := by
    apply scanFrom_flatMap
    intro char _
    exact scanFrom_quoteChar char
  have closed : step (.text ((value.toList.map Char.toNat).reverse ++ [])) '"' =
      some ([.text (some value)], .between) := by
    simp [step, joinUnits?_toNat]
  rw [quote, List.append_assoc, List.cons_append, scanFrom_of_silent (.text []) rfl,
    List.singleton_append, body, scanFrom_of_mark closed]
  rfl

/-! ### Numbers and words -/

theorem startAfter_some (value : Datum) (char : Char) : startAfter (some value) char =
    (start char).map fun next => (.value value :: next.1, next.2) := by
  rw [startAfter]
  cases start char <;> rfl

/-- A token that is being read is complete before a character that cannot belong to it, and at the
end. -/
theorem scanFrom_of_ended {mode : Mode} {value : Datum} (atEnd : finish mode = some [.value value])
    (before : ∀ char, breaks char = true → step mode char = startAfter (some value) char)
    {rest : Text} (broken : Broken rest) :
    scanner.scanFrom mode rest = (scanner.scanFrom .between rest).map ([.value value] ++ ·) := by
  cases rest with
  | nil => exact atEnd
  | cons char rest =>
      rw [scanFrom_cons, scanFrom_cons, scanner_step, before char (broken char rfl), startAfter_some,
        step]
      cases start char with
      | none => rfl
      | some next => simp [Function.comp_def]

theorem numeral?_digits (value : Nat) :
    numeral? (Decimal.digits value) = some (.natural value) := by
  have digits : ∀ char ∈ Decimal.digits value, char.isDigit = true :=
    fun _ => Decimal.isDigit_of_mem_digits
  have plain := Decimal.plain_digits value
  have sum : (Decimal.digits value).foldl
      (fun value char => value * 10 + (char.toNat - '0'.toNat)) 0 = value := by
    simp only [Nat.mul_comm _ 10]
    exact Nat.ofDigitChars_toDigits (by decide) (by decide)
  unfold numeral?
  split
  · rename_i rest sign
    exact absurd (digits '-' (sign ▸ List.mem_cons_self)) (by decide)
  · have taken : (Decimal.digits value).takeWhile Char.isDigit = Decimal.digits value :=
      List.takeWhile_eq_self_iff.mpr digits
    have dropped : (Decimal.digits value).dropWhile Char.isDigit = [] :=
      List.dropWhile_eq_nil_iff.mpr digits
    have noZero : isWhole (Decimal.digits value) = true := by
      rw [isWhole, isDigits, List.all_eq_true.mpr digits, Bool.and_true]
      have notEmpty := Decimal.digits_ne_nil value
      by_cases zero : (Decimal.digits value).head? = some '0'
      · simp [plain.noLeadingZero zero]
      · simp [zero, notEmpty]
    simp only [taken, dropped, noZero, List.all_eq_true.mpr digits, sum, isFraction, isExponent,
      Bool.and_self, if_true]

theorem scanFrom_numeral {text : Text} (within : ∀ char ∈ text, isNumeral char = true)
    (read rest : Text) : scanner.scanFrom (.numeral read) (text ++ rest) =
      scanner.scanFrom (.numeral (text.reverse ++ read)) rest := by
  apply scanFrom_append_of_kept
  intro char member read
  rw [scanner_step, step, if_pos (within char member)]

theorem scanFrom_word {text : Text} (within : ∀ char ∈ text, char.isLower = true)
    (read rest : Text) : scanner.scanFrom (.word read) (text ++ rest) =
      scanner.scanFrom (.word (text.reverse ++ read)) rest := by
  apply scanFrom_append_of_kept
  intro char member read
  rw [scanner_step, step, if_pos (within char member)]

theorem step_of_isDigit {char : Char} (digit : char.isDigit = true) :
    step .between char = some ([], .numeral [char]) := by
  rw [step, start]
  · rw [digit]
    rfl
  -- no character with a meaning of its own is a digit
  all_goals
    rintro rfl
    exact absurd digit (by decide)

theorem reads_digits (value : Nat) : Reads (Decimal.digits value) [.value (.natural value)] := by
  intro rest broken
  have digits : ∀ char ∈ Decimal.digits value, char.isDigit = true :=
    fun _ => Decimal.isDigit_of_mem_digits
  have numeral := numeral?_digits value
  cases text : Decimal.digits value with
  | nil => exact absurd text (Decimal.digits_ne_nil value)
  | cons char others =>
      rw [text] at digits numeral
      obtain ⟨first, within⟩ := List.forall_mem_cons.mp digits
      rw [List.cons_append, scanFrom_of_silent _ (step_of_isDigit first),
        scanFrom_numeral fun other member => by simp [isNumeral, within other member]]
      refine scanFrom_of_ended ?_ (fun next ends => ?_) broken
      · simp [finish, numeral]
      · have outside : isNumeral next = false := by simp_all [breaks]
        simp [step, outside, numeral]

theorem reads_word {first : Char} {others : Text} {value : Datum}
    (starts : step .between first = some ([], .word [first]))
    (lower : others.all Char.isLower = true) (known : word? (first :: others) = some value) :
    Reads (first :: others) [.value value] := by
  intro rest broken
  rw [List.cons_append, scanFrom_of_silent _ starts, scanFrom_word (List.all_eq_true.mp lower)]
  refine scanFrom_of_ended ?_ (fun next ends => ?_) broken
  · simp [finish, known]
  · have outside : next.isLower = false := by simp_all [breaks]
    simp [step, outside, known]

end Restripe.Json

/-!
## Values of written JSON

Both stages of reading are followed side by side: the text of a value is cut into tokens that lead
the reader from where it expects a value to where it has delivered it.
-/

namespace Restripe

/-- Whether every part of a value has a kind of its own, so that a text can tell it. -/
inductive Datum.Plain : Datum → Prop where
  | null : Plain .null
  | bool (value : Bool) : Plain (.bool value)
  | natural (value : Nat) : Plain (.natural value)
  | text (value : String) : Plain (.text value)
  | list {items : List Datum} (each : ∀ item ∈ items, Plain item) : Plain (.list items)
  | record {members : List (String × Datum)} (each : ∀ member ∈ members, Plain member.2) :
      Plain (.record members)

namespace Json

open Scanner (scanFrom_of_mark scanFrom_of_silent)

/-! ### Blanks -/

/-- Whether a text is made of spaces and line ends. -/
def IsBlank (text : Text) : Prop :=
  ∀ char ∈ text, char = ' ' ∨ char = '\n'

/-- Whether a layout puts only spaces and line ends between tokens. -/
structure Layout.Blank (layout : Layout) : Prop where
  line : ∀ level, IsBlank (layout.line level)
  afterColon : IsBlank layout.afterColon

theorem Layout.blank_indented : Layout.indented.Blank where
  line level char member := by
    rcases List.mem_cons.mp member with isEnd | isSpace
    · exact .inr isEnd
    · exact .inl (List.eq_of_mem_replicate isSpace)
  afterColon char member := .inl (List.mem_singleton.mp member)

theorem broken_append {left right : Text} (first : Broken left) (second : Broken right) :
    Broken (left ++ right) := by
  cases left with
  | nil => exact second
  | cons char left => exact first

theorem IsBlank.broken {text : Text} (blank : IsBlank text) : Broken text := by
  intro char first
  rcases blank char (List.mem_of_head? first) with rfl | rfl <;> rfl

theorem IsBlank.scanFrom {blanks : Text} (blank : IsBlank blanks) (rest : Text) :
    scanner.scanFrom .between (blanks ++ rest) = scanner.scanFrom .between rest := by
  induction blanks with
  | nil => rfl
  | cons char blanks ih =>
      obtain ⟨first, others⟩ := List.forall_mem_cons.mp blank
      have silent : step .between char = some ([], .between) := by
        rcases first with rfl | rfl <;> rfl
      rw [List.cons_append, scanFrom_of_silent _ silent, ih others]

/-! ### Texts of parts -/

theorem separate_cons (separator part : Text) (parts : List Text) :
    separate separator (part :: parts) = part ++ parts.flatMap (separator ++ ·) := by
  induction parts generalizing part with
  | nil => simp [separate]
  | cons next parts ih => simp [separate, ih]

/-- Parts after commas are read one after the other. -/
theorem reads_flatMap {blanks : Text} (blank : IsBlank blanks) {parts : List Text}
    {tokens : List (List Token)} (each : List.Forall₂ Reads parts tokens) :
    Reads (parts.flatMap ((',' :: blanks) ++ ·)) (tokens.flatMap (.comma :: ·)) ∧
      Broken (parts.flatMap ((',' :: blanks) ++ ·)) := by
  induction each with
  | nil => exact ⟨fun rest _ => by simp, by simp [Broken]⟩
  | cons first each ih =>
      refine ⟨fun rest broken => ?_, fun char isFirst => ?_⟩
      · rw [List.flatMap_cons, List.append_assoc, List.append_assoc, List.cons_append,
          scanFrom_of_mark rfl, blank.scanFrom, first _ (broken_append ih.2 broken),
          ih.1 rest broken]
        simp [Function.comp_def]
      · obtain rfl : ',' = char := by simpa using isFirst
        rfl

/-- Parts between brackets are read one after the other, in every layout of blanks. -/
theorem reads_enclose {layout : Layout} (blank : layout.Blank) (level : Nat) {first last : Char}
    {opening closing : Token} (isOpening : step .between first = some ([opening], .between))
    (isClosing : step .between last = some ([closing], .between)) (ends : breaks last = true)
    {part : Text} {read : List Token} {parts : List Text} {tokens : List (List Token)}
    (head : Reads part read) (tail : List.Forall₂ Reads parts tokens) :
    Reads (enclose layout level first last (part :: parts))
      (opening :: read ++ tokens.flatMap (.comma :: ·) ++ [closing]) := by
  intro rest broken
  obtain ⟨others, broken⟩ := reads_flatMap (blank.line (level + 1)) tail
  have closes : Broken (layout.line level ++ last :: rest) :=
    broken_append (blank.line level).broken fun char isFirst =>
      Option.mem_some.mp isFirst ▸ ends
  have text : enclose layout level first last (part :: parts) ++ rest =
      first :: (layout.line (level + 1) ++ (part ++
        (parts.flatMap ((',' :: layout.line (level + 1)) ++ ·) ++
          (layout.line level ++ last :: rest)))) := by
    simp [enclose, separate_cons]
  rw [text, scanFrom_of_mark isOpening, (blank.line _).scanFrom,
    head _ (broken_append broken closes), others _ closes, (blank.line _).scanFrom,
    scanFrom_of_mark isClosing]
  simp [Function.comp_def]

/-! ### Tokens of parts -/

/-- Tokens of parts with commas between them lead the reader through the parts, if each part leads
it from where one may start to where one has ended. -/
theorem foldlM_flatMap (before after : List α → State)
    (comma : ∀ done, advance (after done) .comma = some (before done))
    {tokens : List (List Token)} {items : List α}
    (each : List.Forall₂ (fun part item => ∀ done,
      part.foldlM advance (before done) = some (after (item :: done))) tokens items)
    (done : List α) :
    (tokens.flatMap (.comma :: ·)).foldlM advance (after done) =
      some (after (items.reverse ++ done)) := by
  induction each generalizing done with
  | nil => rfl
  | @cons part item tokens items first each ih =>
      rw [List.flatMap_cons, List.foldlM_append, List.foldlM_cons, comma]
      simp only [Option.bind_eq_bind, Option.bind_some]
      rw [first, Option.bind_some, ih]
      simp

/-- Whether tokens lead the reader from where it expects a value to where it has delivered it. -/
def Leads (tokens : List Token) (value : Datum) : Prop :=
  ∀ frames expected, expected = .value ∨ expected = .itemOrEnd →
    tokens.foldlM advance ⟨frames, expected⟩ = some (deliver value frames)

theorem leads_list {first : List Token} {item : Datum} {tokens : List (List Token)}
    {items : List Datum} (head : Leads first item) (tail : List.Forall₂ Leads tokens items) :
    Leads (.openList :: first ++ tokens.flatMap (.comma :: ·) ++ [.closeList])
      (.list (item :: items)) := by
  intro frames expected place
  have opened : advance ⟨frames, expected⟩ .openList = some ⟨.list [] :: frames, .itemOrEnd⟩ := by
    rcases place with rfl | rfl <;> rfl
  have others := foldlM_flatMap (fun done => ⟨.list done :: frames, .value⟩)
    (fun done => ⟨.list done :: frames, .afterItem⟩) (fun _ => rfl)
    (tail.imp fun _ _ leads done => leads (.list done :: frames) .value (.inl rfl)) [item]
  have started : first.foldlM advance ⟨.list [] :: frames, .itemOrEnd⟩ =
      some ⟨.list [item] :: frames, .afterItem⟩ :=
    head (.list [] :: frames) .itemOrEnd (.inr rfl)
  rw [List.append_assoc, List.cons_append, List.foldlM_cons, opened]
  simp only [Option.bind_eq_bind, Option.bind_some, List.foldlM_append, started, others]
  simp [advance, closeList]

/-- Whether tokens are those of a member of a record. -/
def LeadsMember (tokens : List Token) (member : String × Datum) : Prop :=
  ∃ value, Leads value member.2 ∧ tokens = .text (some member.1) :: .colon :: value

/-- A member is read where a name is expected. -/
theorem LeadsMember.foldlM {tokens : List Token} {member : String × Datum}
    (leads : LeadsMember tokens member) {frames : List Frame} {expected : Expected}
    {done : List (Option String × Datum)}
    (place : advance ⟨frames, expected⟩ (.text (some member.1)) =
      some ⟨frames, .colon done (some member.1)⟩) :
    tokens.foldlM advance ⟨frames, expected⟩ =
      some ⟨frames, .afterMember ((some member.1, member.2) :: done)⟩ := by
  obtain ⟨value, leads, rfl⟩ := leads
  have named := leads (.record done (some member.1) :: frames) .value (.inl rfl)
  simp only [List.foldlM_cons, place, Option.bind_eq_bind, Option.bind_some]
  exact named

theorem record_of_members (members : List (String × Datum)) :
    record (members.map fun member => (some member.1, member.2)).reverse = .record members := by
  have named {read : Option String × Datum → Option (String × Datum)}
      (each : ∀ member : String × Datum, read (some member.1, member.2) = some member) :
      (members.map fun member => (some member.1, member.2)).mapM read = some members := by
    induction members with
    | nil => rfl
    | cons member members ih => simp [each, ih]
  rw [record, List.reverse_reverse, named fun _ => rfl]

theorem leads_record {first : List Token} {member : String × Datum} {tokens : List (List Token)}
    {members : List (String × Datum)} (head : LeadsMember first member)
    (tail : List.Forall₂ LeadsMember tokens members) :
    Leads (.openRecord :: first ++ tokens.flatMap (.comma :: ·) ++ [.closeRecord])
      (.record (member :: members)) := by
  intro frames expected place
  have opened : advance ⟨frames, expected⟩ .openRecord = some ⟨frames, .nameOrEnd⟩ := by
    rcases place with rfl | rfl <;> rfl
  have others := foldlM_flatMap (fun done => ⟨frames, .name done⟩)
    (fun done => ⟨frames, .afterMember done⟩) (fun _ => rfl)
    (List.forall₂_map_right_iff.mpr (tail.imp fun _ _ leads done => leads.foldlM rfl))
    [(some member.1, member.2)]
  have started : first.foldlM advance ⟨frames, .nameOrEnd⟩ =
      some ⟨frames, .afterMember [(some member.1, member.2)]⟩ :=
    head.foldlM rfl
  have whole := record_of_members (member :: members)
  rw [List.append_assoc, List.cons_append, List.foldlM_cons, opened]
  simp only [Option.bind_eq_bind, Option.bind_some, List.foldlM_append, started, others]
  simp only [List.map_cons, List.reverse_cons] at whole
  simp [advance, whole]

/-! ### Whole values -/

/-- Whether a text is cut into tokens that lead to a value. -/
def Spells (text : Text) (value : Datum) : Prop :=
  ∃ tokens, Reads text tokens ∧ Leads tokens value

theorem spells_value {text : Text} {value : Datum} (reads : Reads text [.value value]) :
    Spells text value :=
  ⟨_, reads, fun frames expected place => by rcases place with rfl | rfl <;> rfl⟩

theorem spells_quote (value : String) : Spells (quote value) (.text value) :=
  ⟨_, reads_quote value, fun frames expected place => by rcases place with rfl | rfl <;> rfl⟩

/-- Brackets with nothing between them. -/
theorem reads_pair {first last : Char} {opening closing : Token}
    (isOpening : step .between first = some ([opening], .between))
    (isClosing : step .between last = some ([closing], .between)) :
    Reads [first, last] [opening, closing] := by
  intro rest _
  rw [List.cons_append, List.singleton_append, scanFrom_of_mark isOpening, scanFrom_of_mark isClosing]
  simp [Function.comp_def]

/-- The tokens of parts, taken together. -/
theorem exists_tokens {texts : α → Text} {leads : List Token → α → Prop} {items : List α}
    (each : ∀ item ∈ items, ∃ tokens, Reads (texts item) tokens ∧ leads tokens item) :
    ∃ tokens, List.Forall₂ Reads (items.map texts) tokens ∧ List.Forall₂ leads tokens items := by
  induction items with
  | nil => exact ⟨[], .nil, .nil⟩
  | cons item items ih =>
      obtain ⟨⟨first, firstReads, firstLeads⟩, others⟩ := List.forall_mem_cons.mp each
      obtain ⟨tokens, reads, leads⟩ := ih others
      exact ⟨first :: tokens, .cons firstReads reads, .cons firstLeads leads⟩

theorem writeItems_eq_map (layout : Layout) (level : Nat) (items : List Datum) :
    writeItems layout level items = items.map (write layout level) := by
  induction items with
  | nil => simp [writeItems]
  | cons item items ih => simp [writeItems, ih]

def writeMember (layout : Layout) (level : Nat) (member : String × Datum) : Text :=
  quote member.1 ++ ':' :: layout.afterColon ++ write layout level member.2

theorem writeMembers_eq_map (layout : Layout) (level : Nat) (members : List (String × Datum)) :
    writeMembers layout level members = members.map (writeMember layout level) := by
  induction members with
  | nil => simp [writeMembers]
  | cons member members ih => simp [writeMembers, writeMember, ih]

/-- The text of a member is its name, a colon and its value. -/
theorem exists_tokens_writeMember {layout : Layout} (blank : layout.Blank) {level : Nat}
    {member : String × Datum} (spells : Spells (write layout level member.2) member.2) :
    ∃ tokens, Reads (writeMember layout level member) tokens ∧ LeadsMember tokens member := by
  obtain ⟨tokens, reads, leads⟩ := spells
  refine ⟨_, fun rest broken => ?_, tokens, leads, rfl⟩
  have colon : Broken (':' :: (layout.afterColon ++ (write layout level member.2 ++ rest))) :=
    fun char isFirst => Option.mem_some.mp isFirst ▸ rfl
  rw [writeMember, List.append_assoc, List.append_assoc, List.cons_append,
    reads_quote _ _ colon, scanFrom_of_mark rfl, blank.afterColon.scanFrom, reads rest broken]
  simp [Function.comp_def]

/-- What is written of a value with kinds of its own spells the value. -/
theorem spells_write {layout : Layout} (blank : layout.Blank) {value : Datum} (plain : value.Plain)
    (level : Nat) : Spells (write layout level value) value := by
  induction plain generalizing level with
  | null =>
      rw [write]
      exact spells_value (reads_word rfl rfl rfl)
  | bool value =>
      cases value
      all_goals
        rw [write]
        exact spells_value (reads_word rfl rfl rfl)
  | natural value =>
      rw [write]
      exact spells_value (reads_digits value)
  | text value =>
      rw [write]
      exact spells_quote value
  | @list items _ ih =>
      rw [write, writeItems_eq_map]
      cases items with
      | nil =>
          exact ⟨_, reads_pair rfl rfl, fun frames expected place => by
            rcases place with rfl | rfl <;> rfl⟩
      | cons item items =>
          obtain ⟨first, firstReads, firstLeads⟩ := ih item List.mem_cons_self (level + 1)
          obtain ⟨tokens, reads, leads⟩ := exists_tokens fun later member =>
            ih later (List.mem_cons_of_mem item member) (level + 1)
          exact ⟨_, reads_enclose blank level rfl rfl rfl firstReads reads,
            leads_list firstLeads leads⟩
  | @record members _ ih =>
      rw [write, writeMembers_eq_map]
      cases members with
      | nil =>
          exact ⟨_, reads_pair rfl rfl, fun frames expected place => by
            rcases place with rfl | rfl <;> rfl⟩
      | cons member members =>
          obtain ⟨first, firstReads, firstLeads⟩ :=
            exists_tokens_writeMember blank (ih member List.mem_cons_self (level + 1))
          obtain ⟨tokens, reads, leads⟩ := exists_tokens fun later inMembers =>
            exists_tokens_writeMember blank
              (ih later (List.mem_cons_of_mem member inMembers) (level + 1))
          exact ⟨_, reads_enclose blank level rfl rfl rfl firstReads reads,
            leads_record firstLeads leads⟩

/-- Reading undoes writing, in every layout of blanks and with blanks after the value. -/
theorem parse?_write {layout : Layout} (blank : layout.Blank) {value : Datum} (plain : value.Plain)
    (level : Nat) {blanks : Text} (after : IsBlank blanks) :
    parse? (write layout level value ++ blanks) = some value := by
  obtain ⟨tokens, reads, leads⟩ := spells_write blank plain level
  have ended : scanner.scanFrom .between blanks = some [] := by
    have skipped := after.scanFrom []
    rwa [List.append_nil] at skipped
  have scanned : scan (write layout level value ++ blanks) = some tokens := by
    rw [scan, reads blanks after.broken, ended]
    simp
  have delivered : tokens.foldlM advance ⟨[], .value⟩ = some ⟨[], .nothing value⟩ :=
    leads [] .value (.inl rfl)
  simp [parse?, scanned, delivered]

end Json

end Restripe
